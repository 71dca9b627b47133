import SearchStore.Engine.Script
import SearchStore.Proofs.Config.Selection
import SearchStore.Proofs.Finder.Operations
import SearchStore.Proofs.Http.Request

/-!
# The index of a lookup

A lookup of single documents addresses one index, which is the first segment of the path of its request
(`Http.StartsPath`). It is refused if the finder has several indices; these are counted as names, and joined by commas
in the path. So the segment is a single name unless the name has a comma of its own, which a name from a list may have
and one from text may not, or the configured parameters bring further names along (`lookup_startsPath`).

`selections_address_names` says so of all selections and all lookups.
-/

namespace SearchStore

variable {ι σ : Type}

/-! ### Paths of requests -/

namespace Http

theorem parameterTexts_append_strings (items : List Json) (names : List String) :
    parameterTexts (items ++ names.map .string) = parameterTexts items ++ names := by
  induction items with
  | nil =>
    induction names with
    | nil => rfl
    | cons name rest ih => simpa [parameterTexts, parameterText] using ih
  | cons item rest ih => simp [parameterTexts, ih]

/-- The path of the call's request has this text as its first segment. -/
def StartsPath (call : Call) (segment : String) : Prop :=
  ∃ request others, Request.ofCall call = .ok request ∧ Text.split '/' request.path = "" :: segment :: others

namespace Parts

theorem segment_ofParams {key : String} (hkey : key ∈ pathKeys) {params value : Json} {text : String}
    (hvalue : params.get? key = some value) (htext : parameterText value = some text) (hne : text ≠ "") :
    (ofParams params).segment key = some (Text.segment text) := by
  cases params with
  | object fields =>
    apply segment_ofFields hkey _ hne
    rw [textOf?, show Assoc.get? key fields = _ from hvalue]
    exact htext
  | null | bool _ | number _ | string _ | array _ => cases hvalue

theorem split_path {p : Parts} {segment : String} (hindex : p.segment "index" = some segment)
    (hslash : '/' ∉ segment.toList) (suffix : String) :
    ∃ others, Text.split '/' (p.path ("/" ++ suffix)) = "" :: segment :: others := by
  obtain ⟨rest, hrest⟩ : ∃ rest, p.step "type" ++ ("/" ++ suffix) = "/" ++ rest := by
    unfold step
    cases p.segment "type" with
    | none => exact ⟨suffix, by simp⟩
    | some docType => exact ⟨docType ++ ("/" ++ suffix), by rw [String.append_assoc]⟩
  have hstep : p.step "index" = "/" ++ segment := by rw [step, hindex]
  have hparts : p.step "index" ++ p.step "type" ++ ("/" ++ suffix) = "/" ++ segment ++ ("/" ++ rest) := by
    rw [hstep, String.append_assoc, hrest]
  have hpath : p.path ("/" ++ suffix) = "/" ++ segment ++ ("/" ++ rest) := by
    unfold path
    simp only [hparts]
    exact if_neg (by simp [String.append_eq_empty_iff])
  have hchars : ("/" ++ segment ++ ("/" ++ rest)).toList = [] ++ '/' :: (segment.toList ++ '/' :: rest.toList) := by
    simp
  rw [hpath, Text.split, hchars, Text.splitChars_append_cons, Text.splitChars_append_cons,
    Text.splitChars_of_not_mem hslash]
  exact ⟨(Text.splitChars '/' rest.toList).map String.ofList, by simp [Text.splitChars]⟩

end Parts

theorem startsPath_of_segment {method : Method} (hmethod : method ∈ [.get, .mget]) {params : Json} {segment : String}
    (hindex : (Parts.ofParams params).segment "index" = some segment) (hslash : '/' ∉ segment.toList)
    (hcall : IsRequestable ⟨method, params⟩) : StartsPath ⟨method, params⟩ segment := by
  obtain ⟨request, hrequest⟩ := hcall
  simp only [List.mem_cons, List.not_mem_nil, or_false] at hmethod
  obtain rfl | rfl := hmethod
  · obtain ⟨path, hpath, hget⟩ := exists_of_bind_eq_ok hrequest
    cases hid : (Parts.ofParams params).segment "id" with
    | none =>
      rw [Parts.pathOfDocument, hid] at hpath
      cases hpath
    | some id =>
      rw [Parts.pathOfDocument, hid] at hpath
      obtain ⟨others, hothers⟩ := Parts.split_path hindex hslash id
      refine ⟨request, others, hrequest, ?_⟩
      rw [← Except.ok.inj hget, ← hothers, ← Except.ok.inj hpath]
      rfl
  · obtain ⟨others, hothers⟩ := Parts.split_path hindex hslash "_mget"
    refine ⟨request, others, hrequest, ?_⟩
    rw [← Except.ok.inj hrequest, ← hothers]
    rfl

end Http

/-! ### The index of a finder -/

namespace Selection

theorem isMade_all : all.IsMade := .parsed "_all"

end Selection

namespace Finder

variable (f : Finder ι)

/-- The selections of indices of a finder and its connector are made of text or of lists. -/
structure HasMadeIndex : Prop where
  own : ∀ s ∈ f.config.index, s.IsMade
  shared : ∀ s ∈ f.connector.config.index, s.IsMade

/-- What is resolved is one of the selections that are given, and names something, or it is everything. -/
theorem resolve_cases (own shared : Option Selection) :
    resolve own shared = .all ∨
    (resolve own shared).isEmpty = false ∧
      (own = some (resolve own shared) ∨ shared = some (resolve own shared)) := by
  unfold resolve
  cases hchosen : (own <|> shared).filter fun selection => !selection.isEmpty with
  | none => exact .inl rfl
  | some s =>
    obtain ⟨hgiven, hnamed⟩ := Option.filter_eq_some_iff.mp hchosen
    refine .inr ⟨by simpa using hnamed, ?_⟩
    cases own with
    | none => exact .inr hgiven
    | some _ => exact .inl hgiven

theorem HasMadeIndex.isMade {f : Finder ι} (h : f.HasMadeIndex) : f.index.IsMade := by
  obtain hall | ⟨-, hown | hshared⟩ := resolve_cases f.config.index f.connector.config.index
  · rw [index, hall]
    exact Selection.isMade_all
  · exact h.own _ hown
  · exact h.shared _ hshared

/-- A finder for single documents has one index: it never has none. -/
theorem IsSingle.exists_index {f : Finder ι} (h : f.IsSingle) : ∃ name, f.index.names = [name] := by
  have hnamed : f.index.names ≠ [] := by
    obtain hall | ⟨hsome, -⟩ := resolve_cases f.config.index f.connector.config.index
    · rw [index, hall]
      exact List.cons_ne_nil _ _
    · intro hnone
      have hempty : f.index.isEmpty = true := List.isEmpty_iff.mpr hnone
      rw [index, hsome] at hempty
      cases hempty
  have hlength : f.index.names.length = 1 := by
    have hpositive := List.length_pos_iff.mpr hnamed
    have hone : f.index.names.length ≤ 1 := h.1
    omega
  exact List.length_eq_one_iff.mp hlength

end Finder

/-! ### Lookups -/

namespace FinderCall

/-- The operations that fetch documents by their identifiers. -/
def IsLookup : FinderCall → Prop
  | get _ | mget _ => True
  | search _ | searchByTemplate _ | openScroll _ => False

/-- The names of indices that the configured parameters bring along, as they are written in the path. -/
def further (f : Finder ι) (c : FinderCall) : List String :=
  Http.parameterTexts (Json.itemsBelow "index" (c.lower f))

section
variable {f : Finder ι} {c : FinderCall} (hc : c.IsLookup) {engine : Engine σ} {state : σ} {call : Call}
  (hcall : call ∈ ((c.perform f).execute engine state).calls)
include hc hcall

theorem isSingle_of_mem : f.IsSingle := by
  cases c with
  | get identifier => exact ((f.asksIf_getByIdentifier identifier).of_mem_calls hcall).1.2
  | mget identifiers => exact ((f.asksIf_getByIdentifiers identifiers).of_mem_calls hcall).1.2
  | search _ | searchByTemplate _ | openScroll _ => cases hc

theorem isRequestable_of_mem : Http.IsRequestable call := by
  cases c with
  | get identifier => exact (f.makes_getByIdentifier identifier).of_mem_calls engine state call hcall
  | mget identifiers =>
    obtain rfl := eq_call_of_mem hcall
    exact ⟨_, rfl⟩
  | search _ | searchByTemplate _ | openScroll _ => cases hc

/-- The path of a lookup starts with the names that are configured, and behind them the index of the finder. -/
theorem lookup_startsPath (hmade : f.HasMadeIndex) (hunique : ∀ layer ∈ c.lower f, (Assoc.keys layer).Nodup) :
    ∃ name, f.index.names = [name] ∧
      Http.StartsPath call (Text.segment (Text.join "," (c.further f ++ [name]))) := by
  obtain ⟨name, hname⟩ := (isSingle_of_mem hc hcall).exists_index
  have hrequestable := isRequestable_of_mem hc hcall
  obtain rfl := eq_call_of_mem hcall
  have hmethod : (c.call f).method ∈ [.get, .mget] := by
    cases c with
    | get _ | mget _ => simp [FinderCall.call]
    | search _ | searchByTemplate _ | openScroll _ => cases hc
  have hown : Assoc.get? "index" (c.own f) = some f.index.toJson := by cases c <;> rfl
  have hindex := get?_call hunique hown
  have htext : Http.parameterText (.array (Json.itemsBelow "index" (c.lower f) ++ f.index.names.map .string)) =
      some (Text.join "," (c.further f ++ [name])) := by
    rw [Http.parameterText, Http.parameterTexts_append_strings, hname, further]
  have hne : Text.join "," (c.further f ++ [name]) ≠ "" := by
    by_cases hfurther : c.further f = []
    · have hvisible := (hmade.isMade.visible name (by simp [hname])).2
      rw [hfurther]
      exact Http.ne_empty_of_not_isBlank hvisible
    · intro hempty
      have hplain : ',' ∉ (Text.join "," (c.further f ++ [name])).toList := by
        rw [hempty]
        decide
      exact hfurther ((Text.not_mem_join_concat_iff (by decide)).mp hplain).2
  have hsegment := Http.Parts.segment_ofParams (show "index" ∈ Http.Parts.pathKeys by decide) hindex htext hne
  exact ⟨name, hname, Http.startsPath_of_segment hmethod hsegment (Text.slash_not_mem_segment _) hrequestable⟩

end

end FinderCall

/-- **A selection names what it addresses, unless a name has a comma.** However a selection is made, its names are
trimmed and not blank. It is found again in its text if and only if no name has a comma, so one that is made of text
always is. A finder that makes a call for single documents has one index, which the path of the request starts with.
It starts with this name alone, and with no comma, if and only if the name has none and the parameters that are
configured for the method bring no further names along. -/
theorem selections_address_names :
    (∀ s : Selection, s.IsMade →
      (∀ name ∈ s.names, Text.trim name = name ∧ Text.isBlank name = false) ∧
      (Selection.parse s.render = s ↔ ∀ name ∈ s.names, ',' ∉ name.toList)) ∧
    (∀ text, Selection.parse (Selection.parse text).render = Selection.parse text) ∧
    ∀ (f : Finder ι) (c : FinderCall), f.HasMadeIndex → c.IsLookup →
      (∀ layer ∈ c.lower f, (Assoc.keys layer).Nodup) →
      ∀ (σ : Type) (engine : Engine σ) (state : σ), ∀ call ∈ ((c.perform f).execute engine state).calls,
        ∃ name segment, f.index.names = [name] ∧ Http.StartsPath call segment ∧
          (segment = Text.segment name ∧ ',' ∉ segment.toList ↔ ',' ∉ name.toList ∧ c.further f = []) := by
  refine ⟨fun s hs => ⟨hs.visible, hs.parse_render_iff⟩, fun text => ?_, ?_⟩
  · exact (Selection.IsMade.parsed text).parse_render_iff.mpr fun name => Selection.comma_not_mem_of_mem_parse
  · intro f c hmade hc hunique σ engine state call hcall
    obtain ⟨name, hname, hstarts⟩ := FinderCall.lookup_startsPath hc hcall hmade hunique
    refine ⟨name, _, hname, hstarts, ?_⟩
    have hcomma : ∀ s, ',' ∈ (Text.segment s).toList ↔ ',' ∈ s.toList := fun _ =>
      Text.mem_segment_iff (by decide) (by decide)
    have hjoined : ',' ∉ (Text.join "," (c.further f ++ [name])).toList ↔ ',' ∉ name.toList ∧ c.further f = [] :=
      Text.not_mem_join_concat_iff (by decide)
    rw [hcomma, hjoined, Text.segment_inj]
    constructor
    · exact And.right
    · rintro ⟨hplain, hfurther⟩
      refine ⟨?_, hplain, hfurther⟩
      rw [hfurther]
      rfl

/-- An index from text, with a comma behind it. -/
theorem selections_address_names_library :
    let config : FinderConfig := { index := some (.parse " library, "), docType := some ⟨["book"]⟩ }
    let f : Finder Json := { connector := {}, mapper := .source, config }
    f.HasMadeIndex ∧ (∀ layer ∈ (FinderCall.get "dune").lower f, (Assoc.keys layer).Nodup) ∧
    ∃ call segment, ((f.getByIdentifier "dune").execute Script.engine {}).calls = [call] ∧
      Http.StartsPath call segment ∧ ',' ∉ segment.toList := by
  intro config f
  have hmade : f.HasMadeIndex := ⟨by rintro s ⟨rfl⟩; exact .parsed " library, ", nofun⟩
  have hunique : ∀ layer ∈ (FinderCall.get "dune").lower f, (Assoc.keys layer).Nodup := by decide
  have hcalls : (((FinderCall.get "dune").perform f).execute Script.engine {}).calls =
      [(FinderCall.get "dune").call f] := rfl
  obtain ⟨name, segment, hname, hstarts, hplain⟩ := selections_address_names.2.2 f (.get "dune") hmade trivial hunique
    Script Script.engine {} _ (hcalls ▸ List.mem_singleton_self _)
  have hlibrary : f.index.names = ["library"] := by decide +kernel
  rw [hlibrary, List.cons.injEq] at hname
  obtain ⟨rfl, -⟩ := hname
  exact ⟨hmade, hunique, _, segment, hcalls, hstarts, (hplain.mpr (by decide +kernel)).2⟩

/-- A list of one name with a comma passes for one index, and is two in the path. -/
theorem selection_addresses_two :
    let s : Selection := .ofNames ["library,archive"]
    let config : FinderConfig := { index := some s, docType := some ⟨["book"]⟩ }
    let f : Finder Json := { connector := {}, mapper := .source, config }
    Selection.decode (Json.strings ["library,archive"]) = .ok s ∧ Selection.parse s.render ≠ s ∧
    ∃ call, ((f.getByIdentifier "dune").execute Script.engine {}).calls = [call] ∧
      Http.StartsPath call "library,archive" := by
  intro s config f
  refine ⟨rfl, by decide +kernel, _, rfl, _, ["book", "dune"], rfl, ?_⟩
  decide +kernel

end SearchStore
