import Mathlib.Data.List.DropRight
import SearchStore.Config.Selection
import SearchStore.Proofs.Json.Record

/-!
# Selections that are written and read again

The names of a selection are trimmed and not blank, however it is made, and nothing is left to trim in them
(`Selection.ofNames_names`). Written as a list, they are read again (`Selection.IsRead.decode_toJson`), also where they
were read from text. Written as text, they are read again unless a name has a comma
(`Selection.IsMade.parse_render_iff`).
-/

namespace SearchStore

/-! ### Trimming -/

namespace Text

theorem trimRight_trimRight (cs : List Char) : trimRight (trimRight cs) = trimRight cs :=
  List.rdropWhile_idempotent isBlankChar cs

/-- What is trimmed on the left keeps its first character when it is trimmed on the right. -/
theorem trimLeft_trimRight (cs : List Char) :
    trimLeft (trimRight (trimLeft cs)) = trimRight (trimLeft cs) := by
  have hprefix : trimRight (trimLeft cs) <+: trimLeft cs := List.rdropWhile_prefix isBlankChar (trimLeft cs)
  obtain ⟨rest, hrest⟩ := hprefix
  cases htrimmed : trimRight (trimLeft cs) with
  | nil => rfl
  | cons c others =>
    have hfront : trimLeft cs = c :: (others ++ rest) := by rw [← hrest, htrimmed, List.cons_append]
    have hvisible : isBlankChar c = false := by
      have hleft : (cs.dropWhile isBlankChar).head? = some c := congrArg List.head? hfront
      have hhead := List.head?_dropWhile_not isBlankChar cs
      rw [hleft] at hhead
      simpa using hhead
    exact List.dropWhile_cons_of_neg (by simp [hvisible])

theorem trim_trim (s : String) : trim (trim s) = trim s := by
  rw [trim, trim, String.toList_ofList, trimLeft_trimRight, trimRight_trimRight]

theorem mem_of_mem_trim {c : Char} {s : String} (h : c ∈ (trim s).toList) : c ∈ s.toList := by
  rw [trim, String.toList_ofList] at h
  have hleft : c ∈ trimLeft s.toList := (List.rdropWhile_prefix isBlankChar (trimLeft s.toList)).subset h
  exact (List.dropWhile_sublist isBlankChar).subset hleft

theorem isBlank_of_trim_eq {s : String} (h : trim s = s) (hne : s ≠ "") : isBlank s = false := by
  by_contra hblank
  rw [Bool.not_eq_false, isBlank, List.all_eq_true] at hblank
  have hnone : trimLeft s.toList = [] := List.dropWhile_eq_nil_iff.mpr hblank
  have hempty : trim s = "" := by
    rw [trim, hnone]
    rfl
  exact hne (h.symm.trans hempty)

end Text

/-! ### Selections -/

namespace Selection

/-- A selection as it is read: from text with commas or from a list. -/
def IsRead (s : Selection) : Prop := ∃ value, decode value = .ok s

theorem IsRead.exists_ofNames {s : Selection} (h : s.IsRead) : ∃ names, ofNames names = s := by
  obtain ⟨value, hvalue⟩ := h
  unfold decode at hvalue
  split at hvalue
  · rename_i text
    exact ⟨Text.split ',' text, Except.ok.inj hvalue⟩
  · split at hvalue
    · rename_i names _
      exact ⟨names, Except.ok.inj hvalue⟩
    · cases hvalue

theorem ne_empty_of_mem_ofNames {names : List String} {name : String} (h : name ∈ (ofNames names).names) :
    name ≠ "" := by
  unfold ofNames at h
  simpa using (List.mem_filter.mp h).2

theorem trim_of_mem_ofNames {names : List String} {name : String} (h : name ∈ (ofNames names).names) :
    Text.trim name = name := by
  unfold ofNames at h
  obtain ⟨source, -, rfl⟩ := List.mem_map.mp (List.mem_filter.mp h).1
  exact Text.trim_trim source

/-- A selection is that of its own names. -/
theorem ofNames_names (names : List String) : ofNames (ofNames names).names = ofNames names := by
  have htrimmed : (ofNames names).names.map Text.trim = (ofNames names).names := by
    rw [List.map_congr_left fun name => trim_of_mem_ofNames]
    exact List.map_id' _
  have hkept : (ofNames names).names.filter (fun name => name ≠ "") = (ofNames names).names := by
    rw [List.filter_eq_self]
    intro name hname
    simpa using ne_empty_of_mem_ofNames hname
  generalize ofNames names = s at htrimmed hkept ⊢
  rw [ofNames, htrimmed, hkept]

theorem IsRead.ne_empty {s : Selection} (h : s.IsRead) : ∀ name ∈ s.names, name ≠ "" := by
  obtain ⟨names, rfl⟩ := h.exists_ofNames
  intro name hname
  exact ne_empty_of_mem_ofNames hname

theorem IsRead.decode_toJson {s : Selection} (h : s.IsRead) : decode s.toJson = .ok s := by
  obtain ⟨names, rfl⟩ := h.exists_ofNames
  have hlist : Json.Decoder.list Json.Decoder.string (.array ((ofNames names).names.map .string)) =
      .ok (ofNames names).names := Json.Decoder.list_strings (ofNames names).names
  simp only [toJson, Json.strings, decode, hlist, ofNames_names]

/-- The ways in which a selection is made: of text with commas, of a list of names, or of a value that is read. -/
inductive IsMade : Selection → Prop where
  | parsed (text : String) : IsMade (parse text)
  | listed (names : List String) : IsMade (ofNames names)
  | read {s : Selection} (h : s.IsRead) : IsMade s

theorem IsMade.exists_ofNames {s : Selection} (h : s.IsMade) : ∃ names, ofNames names = s := by
  cases h with
  | parsed text => exact ⟨Text.split ',' text, rfl⟩
  | listed names => exact ⟨names, rfl⟩
  | read h => exact h.exists_ofNames

/-- However a selection is made, its names are trimmed and not blank. -/
theorem IsMade.visible {s : Selection} (h : s.IsMade) :
    ∀ name ∈ s.names, Text.trim name = name ∧ Text.isBlank name = false := by
  obtain ⟨names, rfl⟩ := h.exists_ofNames
  intro name hname
  have htrim := trim_of_mem_ofNames hname
  exact ⟨htrim, Text.isBlank_of_trim_eq htrim (ne_empty_of_mem_ofNames hname)⟩

theorem comma_not_mem_of_mem_parse {text name : String} (h : name ∈ (parse text).names) : ',' ∉ name.toList := by
  unfold parse ofNames at h
  obtain ⟨field, hfield, rfl⟩ := List.mem_map.mp (List.mem_filter.mp h).1
  intro hcomma
  exact Text.not_mem_of_mem_split hfield (Text.mem_of_mem_trim hcomma)

/-- A selection is found again in its text exactly if no name in it has a comma. -/
theorem IsMade.parse_render_iff {s : Selection} (h : s.IsMade) :
    parse s.render = s ↔ ∀ name ∈ s.names, ',' ∉ name.toList := by
  constructor
  · intro hparsed name hname
    rw [← hparsed] at hname
    exact comma_not_mem_of_mem_parse hname
  · intro hplain
    obtain ⟨names, rfl⟩ := h.exists_ofNames
    by_cases hnone : (ofNames names).names = []
    · have hempty : ofNames names = ⟨[]⟩ := congrArg Selection.mk hnone
      rw [hempty]
      rfl
    · rw [parse, render, Text.split_join (by decide) hnone hplain, ofNames_names]

theorem field_toJson (name : String) {found : Option Selection} (h : ∀ s ∈ found, s.IsRead) :
    (field name).decode (Json.ofOption toJson found) = .ok found :=
  Json.Decoder.optional_ofOption (fun s hs => (h s hs).decode_toJson) nofun

theorem isRead_of_field {name : String} {entries : Fields} {found : Option Selection}
    (h : (field name).read entries = .ok found) : ∀ s ∈ found, s.IsRead := by
  intro s hs
  obtain rfl := Option.mem_def.mp hs
  rcases Json.Field.of_read_eq_ok h with ⟨value, hvalue⟩ | hfallback
  · exact ⟨value, Json.Decoder.of_optional_eq_ok hvalue⟩
  · cases hfallback

end Selection

end SearchStore
