/-!
# Text as a list of fields

Cutting text at every occurrence of a separator, joining texts with one, and looking for a text in another.
-/

namespace SearchStore.Text

/-- The stretches between the occurrences of `separator`; one more than there are occurrences. -/
def splitChars (separator : Char) : List Char → List (List Char)
  | [] => [[]]
  | c :: rest =>
    if c = separator then [] :: splitChars separator rest
    else
      match splitChars separator rest with
      | [] => [[c]]
      | field :: fields => (c :: field) :: fields

/-- The fields of `s` between the occurrences of `separator`. -/
def split (separator : Char) (s : String) : List String :=
  (splitChars separator s.toList).map String.ofList

/-- The texts with `separator` between each two. -/
def join (separator : String) : List String → String
  | [] => ""
  | [s] => s
  | s :: t :: rest => s ++ separator ++ join separator (t :: rest)

/-- Whether `part` stands somewhere in the characters. -/
def isInfix (part : List Char) : List Char → Bool
  | [] => part.isEmpty
  | c :: rest => part.isPrefixOf (c :: rest) || isInfix part rest

/-- Whether `part` stands somewhere in `s`. -/
def contains (s part : String) : Bool := isInfix part.toList s.toList

/-- The characters in front of the first one that `p` does not hold of, and the rest from there on. -/
theorem takeWhile_dropWhile_stop {p : Char → Bool} {front : List Char} {stop : Char}
    (hfront : ∀ c ∈ front, p c = true) (hstop : p stop = false) (rest : List Char) :
    (front ++ stop :: rest).takeWhile p = front ∧ (front ++ stop :: rest).dropWhile p = stop :: rest := by
  constructor
  · rw [List.takeWhile_append_of_pos hfront, List.takeWhile_cons_of_neg (by simp [hstop]), List.append_nil]
  · rw [List.dropWhile_append_of_pos hfront, List.dropWhile_cons_of_neg (by simp [hstop])]

theorem splitChars_ne_nil (separator : Char) (cs : List Char) : splitChars separator cs ≠ [] := by
  induction cs with
  | nil => simp [splitChars]
  | cons c rest ih =>
    unfold splitChars
    split
    · simp
    · split <;> simp

theorem splitChars_of_not_mem {separator : Char} {cs : List Char} (h : separator ∉ cs) :
    splitChars separator cs = [cs] := by
  induction cs with
  | nil => rfl
  | cons c rest ih =>
    obtain ⟨hc, hrest⟩ := not_or.mp (mt List.mem_cons.mpr h)
    rw [splitChars, if_neg (Ne.symm hc), ih hrest]

theorem splitChars_append_cons (separator : Char) (front rest : List Char) :
    splitChars separator (front ++ separator :: rest) =
      splitChars separator front ++ splitChars separator rest := by
  induction front with
  | nil => simp [splitChars]
  | cons c front ih =>
    rw [List.cons_append, splitChars, splitChars, ih]
    split
    · rfl
    · cases hfields : splitChars separator front with
      | nil => exact absurd hfields (splitChars_ne_nil separator front)
      | cons field fields => rfl

theorem intercalate_splitChars (separator : Char) (cs : List Char) :
    [separator].intercalate (splitChars separator cs) = cs := by
  induction cs with
  | nil => rfl
  | cons c rest ih =>
    have hfields := splitChars_ne_nil separator rest
    rw [splitChars]
    split
    · rename_i hc
      rw [List.intercalate_cons_of_ne_nil hfields, ih, hc]
      rfl
    · cases hsplit : splitChars separator rest with
      | nil => exact absurd hsplit hfields
      | cons field fields =>
        rw [hsplit] at ih
        rw [List.intercalate_cons_cons_left, ih]

theorem mem_of_mem_splitChars {separator c : Char} {cs field : List Char}
    (hfield : field ∈ splitChars separator cs) (hc : c ∈ field) : c ∈ cs ∧ c ≠ separator := by
  induction cs generalizing field with
  | nil =>
    obtain rfl := List.mem_singleton.mp hfield
    cases hc
  | cons d rest ih =>
    rw [splitChars] at hfield
    split at hfield
    · obtain rfl | hrest := List.mem_cons.mp hfield
      · cases hc
      · exact (ih hrest hc).imp_left (List.mem_cons_of_mem d)
    · rename_i hd
      cases hsplit : splitChars separator rest with
      | nil => exact absurd hsplit (splitChars_ne_nil separator rest)
      | cons first fields =>
        simp only [hsplit] at hfield ih
        obtain rfl | hlater := List.mem_cons.mp hfield
        · obtain rfl | hfirst := List.mem_cons.mp hc
          · exact ⟨List.mem_cons_self, hd⟩
          · exact (ih List.mem_cons_self hfirst).imp_left (List.mem_cons_of_mem d)
        · exact (ih (List.mem_cons_of_mem first hlater) hc).imp_left (List.mem_cons_of_mem d)

/-- Fields without the separator are found again in the text that they make. -/
theorem splitChars_intercalate {separator : Char} {fields : List (List Char)} (hne : fields ≠ [])
    (h : ∀ field ∈ fields, separator ∉ field) :
    splitChars separator ([separator].intercalate fields) = fields := by
  induction fields with
  | nil => exact absurd rfl hne
  | cons field rest ih =>
    obtain ⟨hfield, hrest⟩ := List.forall_mem_cons.mp h
    cases rest with
    | nil => rw [List.intercalate_singleton, splitChars_of_not_mem hfield]
    | cons next rest =>
      rw [List.intercalate_cons_cons, List.append_assoc, List.singleton_append, splitChars_append_cons,
        splitChars_of_not_mem hfield, ih (List.cons_ne_nil _ _) hrest]
      rfl

theorem intercalate_append {separator : Char} {front rest : List (List Char)} (hfront : front ≠ [])
    (hrest : rest ≠ []) :
    [separator].intercalate (front ++ rest) =
      [separator].intercalate front ++ separator :: [separator].intercalate rest := by
  induction front with
  | nil => exact absurd rfl hfront
  | cons field front ih =>
    cases front with
    | nil => simp [List.intercalate_cons_of_ne_nil hrest]
    | cons next front =>
      have hnext := ih (List.cons_ne_nil next front)
      rw [List.cons_append] at hnext
      simp [List.intercalate_cons_cons, hnext]

theorem toList_join {separator : String} {c : Char} (h : separator.toList = [c]) (texts : List String) :
    (join separator texts).toList = [c].intercalate (texts.map String.toList) := by
  induction texts with
  | nil => rfl
  | cons text rest ih =>
    cases rest with
    | nil => simp [join]
    | cons next rest =>
      rw [join, String.toList_append, String.toList_append, ih, h]
      simp only [List.map_cons, List.intercalate_cons_cons]

theorem split_join {separator : String} {c : Char} (hseparator : separator.toList = [c]) {texts : List String}
    (hne : texts ≠ []) (h : ∀ text ∈ texts, c ∉ text.toList) : split c (join separator texts) = texts := by
  have hchars : ∀ field ∈ texts.map String.toList, c ∉ field := List.forall_mem_map.mpr h
  rw [split, toList_join hseparator, splitChars_intercalate (by simpa using hne) hchars, List.map_map]
  simp [Function.comp_def]

theorem mem_of_mem_intercalate {separator c : Char} {fields : List (List Char)}
    (h : c ∈ [separator].intercalate fields) : c = separator ∨ ∃ field ∈ fields, c ∈ field := by
  induction fields with
  | nil => cases h
  | cons field rest ih =>
    cases rest with
    | nil => exact .inr ⟨field, List.mem_singleton_self field, by simpa using h⟩
    | cons next rest =>
      rw [List.intercalate_cons_cons, List.append_assoc, List.mem_append, List.mem_append, List.mem_singleton] at h
      obtain hfield | hsep | hrest := h
      · exact .inr ⟨field, List.mem_cons_self, hfield⟩
      · exact .inl hsep
      · obtain hsep | ⟨later, hlater, hc⟩ := ih hrest
        · exact .inl hsep
        · exact .inr ⟨later, List.mem_cons_of_mem field hlater, hc⟩

theorem not_mem_of_mem_split {separator : Char} {s field : String} (h : field ∈ split separator s) :
    separator ∉ field.toList := by
  obtain ⟨cs, hcs, rfl⟩ := List.mem_map.mp h
  intro hmem
  rw [String.toList_ofList] at hmem
  exact (mem_of_mem_splitChars hcs hmem).2 rfl

theorem split_eq_singleton_iff {separator : Char} {s : String} :
    split separator s = [s] ↔ separator ∉ s.toList := by
  refine ⟨fun h => not_mem_of_mem_split (h ▸ List.mem_singleton_self s), fun h => ?_⟩
  rw [split, splitChars_of_not_mem h, List.map_singleton, String.ofList_toList]

/-- A text behind others brings a separator with it. -/
theorem not_mem_join_concat_iff {separator : String} {c : Char} (h : separator.toList = [c]) {texts : List String}
    {last : String} : c ∉ (join separator (texts ++ [last])).toList ↔ c ∉ last.toList ∧ texts = [] := by
  rw [toList_join h, List.map_append, List.map_singleton]
  cases texts with
  | nil => simp
  | cons first rest =>
    rw [intercalate_append (by simp) (List.cons_ne_nil _ _)]
    simp

end SearchStore.Text
