import SearchStore.Http.Node
import SearchStore.Proofs.Text.Percent

/-!
# Resolution of paths

A path is resolved below the path of a node, segment by segment (`Resolves`). It stays as it is exactly if every
segment is literal (`IsBase.below_eq_append_iff`): it has no backslash, which counts as a slash, and does not stand
for another path. The escaped segment of a text is literal exactly if the text is plain (`isLiteral_segment_iff`),
since escaping makes no escape of a dot.
-/

namespace SearchStore.Http

namespace Node

/-- Whether resolution keeps a segment as it is. -/
def IsLiteral (segment : List Char) : Prop :=
  (∀ c ∈ ['/', '\\', '?', '#'], c ∉ segment) ∧ isDot segment = false ∧ isDoubleDot segment = false

instance : DecidablePred IsLiteral := fun _ => @instDecidableAnd _ _ (List.decidableBAll _ _) _

/-- Whether a text has no backslash and does not name a directory relative to another. -/
def IsPlain (s : String) : Prop := '\\' ∉ s.toList ∧ s ≠ "." ∧ s ≠ ".."

instance : DecidablePred IsPlain := fun _ => inferInstanceAs (Decidable (_ ∧ _))

/-! ### Segments that stand for other paths -/

/-- A character that is no lower-case letter is the lower case of itself only. -/
theorem eq_of_toLower_eq {c d : Char} (hd : ¬('a' ≤ d ∧ d ≤ 'z')) (h : c.toLower = d) : c = d := by
  delta Char.toLower at h
  split at h
  · rename_i hupper
    refine absurd ?_ hd
    subst h
    simp only [Char.le_def, UInt32.le_iff_toNat_le] at hupper ⊢
    simp at hupper ⊢
    omega
  · exact h

theorem percentBytes_escapedDot {a b c : Char} (ha : a.toLower = '%') (hb : b.toLower = '2')
    (hc : c.toLower = 'e') (rest : List Char) :
    Text.percentBytes (a :: b :: c :: rest) = 0x2E :: Text.percentBytes rest := by
  obtain rfl := eq_of_toLower_eq (by decide) ha
  obtain rfl := eq_of_toLower_eq (by decide) hb
  have hletter : c.isDigit = false := by
    delta Char.toLower at hc
    split at hc
    · rename_i hupper
      simp only [UInt32.le_iff_toNat_le, ge_iff_le] at hupper
      simp [Char.isDigit, UInt32.le_iff_toNat_le] at hupper ⊢
      omega
    · rw [hc]
      decide
  have hdigit : Text.hexDigitValue? c = some 14 := by
    rw [Text.hexDigitValue?, hc, hletter]
    rfl
  have htwo : Text.hexDigitValue? '2' = some 2 := by decide
  rw [Text.percentBytes, htwo, hdigit]
  rfl

theorem percentBytes_dot {a : Char} (ha : a.toLower = '.') (rest : List Char) :
    Text.percentBytes (a :: rest) = 0x2E :: Text.percentBytes rest := by
  obtain rfl := eq_of_toLower_eq (by decide) ha
  rw [Text.percentBytes_cons_of_ne (by decide)]
  rfl

/-- Who decodes a segment that stands for its path gets a dot. -/
theorem percentBytes_of_isDot {segment : List Char} (h : isDot segment = true) :
    Text.percentBytes segment = [0x2E] := by
  have hlower : segment.map Char.toLower = ['.'] ∨ segment.map Char.toLower = ['%', '2', 'e'] := by
    simpa [isDot, String.ext_iff] using h
  simp only [List.map_eq_cons_iff, List.map_eq_nil_iff] at hlower
  obtain ⟨a, _, rfl, ha, rfl⟩ | ⟨a, _, rfl, ha, b, _, rfl, hb, c, _, rfl, hc, rfl⟩ := hlower
  · exact percentBytes_dot ha []
  · exact percentBytes_escapedDot ha hb hc []

theorem percentBytes_of_isDoubleDot {segment : List Char} (h : isDoubleDot segment = true) :
    Text.percentBytes segment = [0x2E, 0x2E] := by
  have hlower : segment.map Char.toLower = ['.', '.'] ∨
      segment.map Char.toLower = ['.', '%', '2', 'e'] ∨
      segment.map Char.toLower = ['%', '2', 'e', '.'] ∨
      segment.map Char.toLower = ['%', '2', 'e', '%', '2', 'e'] := by
    simpa [isDoubleDot, String.ext_iff] using h
  simp only [List.map_eq_cons_iff, List.map_eq_nil_iff] at hlower
  obtain ⟨a, _, rfl, ha, b, _, rfl, hb, rfl⟩ |
    ⟨a, _, rfl, ha, b, _, rfl, hb, c, _, rfl, hc, d, _, rfl, hd, rfl⟩ |
    ⟨a, _, rfl, ha, b, _, rfl, hb, c, _, rfl, hc, d, _, rfl, hd, rfl⟩ |
    ⟨a, _, rfl, ha, b, _, rfl, hb, c, _, rfl, hc, d, _, rfl, hd, e, _, rfl, he, f, _, rfl, hf, rfl⟩ := hlower
  · rw [percentBytes_dot ha, percentBytes_dot hb, Text.percentBytes]
  · rw [percentBytes_dot ha, percentBytes_escapedDot hb hc hd, Text.percentBytes]
  · rw [percentBytes_escapedDot ha hb hc, percentBytes_dot hd, Text.percentBytes]
  · rw [percentBytes_escapedDot ha hb hc, percentBytes_escapedDot hd he hf, Text.percentBytes]

theorem isDot_segment_iff {s : String} : isDot (Text.segment s).toList = true ↔ s = "." := by
  refine ⟨fun h => Text.eq_of_percentBytes_segment_eq ?_, fun h => by subst h; decide⟩
  rw [percentBytes_of_isDot h]
  decide

theorem isDoubleDot_segment_iff {s : String} : isDoubleDot (Text.segment s).toList = true ↔ s = ".." := by
  refine ⟨fun h => Text.eq_of_percentBytes_segment_eq ?_, fun h => by subst h; decide⟩
  rw [percentBytes_of_isDoubleDot h]
  decide

/-- The escaped segment of a text is literal exactly if the text is plain. -/
theorem isLiteral_segment_iff {s : String} : IsLiteral (Text.segment s).toList ↔ IsPlain s := by
  have hbackslash : '\\' ∉ (Text.segment s).toList ↔ '\\' ∉ s.toList := by
    refine not_congr ⟨fun h => ?_, fun h => Text.mem_percentEncode_of_keep (by decide) h⟩
    obtain ⟨-, hs⟩ | hescape := Text.mem_percentEncode h
    · exact hs
    · exact absurd hescape (by decide)
  have hquery : '?' ∉ (Text.segment s).toList := Text.not_mem_segment (by decide) (by decide) s
  have hfragment : '#' ∉ (Text.segment s).toList := Text.not_mem_segment (by decide) (by decide) s
  simp [IsLiteral, IsPlain, Text.slash_not_mem_segment, hbackslash, hquery, hfragment, ← Bool.not_eq_true,
    isDot_segment_iff, isDoubleDot_segment_iff]

/-! ### Segments below other segments -/

/-- Whether a segment stays in a path. -/
def IsKept (segment : List Char) : Prop := isDot segment = false ∧ isDoubleDot segment = false

theorem IsLiteral.isKept {segment : List Char} (h : IsLiteral segment) : IsKept segment := h.2

theorem resolve_cons_of_isKept {segment : List Char} (h : IsKept segment) (above rest : List (List Char)) :
    resolve above (segment :: rest) = resolve (segment :: above) rest := by
  simp [resolve, h.1, h.2]

theorem resolve_append_of_isKept {segments : List (List Char)} (h : ∀ s ∈ segments, IsKept s)
    (above rest : List (List Char)) :
    resolve above (segments ++ rest) = resolve (segments.reverse ++ above) rest := by
  induction segments generalizing above with
  | nil => rfl
  | cons segment segments ih =>
    obtain ⟨hsegment, hsegments⟩ := List.forall_mem_cons.mp h
    rw [List.cons_append, resolve_cons_of_isKept hsegment, ih hsegments, List.reverse_cons, List.append_assoc,
      List.singleton_append]

theorem resolve_dot (above : List (List Char)) : resolve above [['.']] = above.reverse ++ [[]] := by
  simp [resolve, show isDot ['.'] = true by decide, show isDoubleDot ['.'] = false by decide]

theorem resolve_doubleDot (above : List (List Char)) :
    resolve above [['.', '.']] = above.tail.reverse ++ [[]] := by
  simp [resolve, show isDoubleDot ['.', '.'] = true by decide]

theorem isKept_nil : IsKept [] := ⟨by decide, by decide⟩

/-- What a segment that does not stay leaves of those above it. -/
theorem exists_resolve_cons_of_not_isKept {segment : List Char} (h : ¬IsKept segment) (above : List (List Char)) :
    ∃ left, left <:+ above ∧ resolve above [segment] = left.reverse ++ [[]] ∧
      ∀ rest, rest ≠ [] → resolve above (segment :: rest) = resolve left rest := by
  by_cases hdouble : isDoubleDot segment = true
  · refine ⟨above.tail, above.tail_suffix, by simp [resolve, hdouble], fun rest hrest => ?_⟩
    simp [resolve, hdouble, hrest]
  · have hdot : isDot segment = true := by
      rw [Bool.not_eq_true] at hdouble
      simpa [IsKept, hdouble] using h
    refine ⟨above, List.suffix_rfl, by simp [resolve, hdouble, hdot], fun rest hrest => ?_⟩
    simp [resolve, hdouble, hdot, hrest]

/-- How segments are resolved below others, the last of which stands first: one that does not stay leaves some of
those above it, and closes the path if it is the last one. -/
inductive Resolves : (above segments resolved : List (List Char)) → Prop where
  | nil (above : List (List Char)) : Resolves above [] above.reverse
  | kept {above rest resolved : List (List Char)} {segment : List Char} :
    IsKept segment → Resolves (segment :: above) rest resolved → Resolves above (segment :: rest) resolved
  | last {above left : List (List Char)} {segment : List Char} :
    ¬IsKept segment → left <:+ above → Resolves above [segment] (left.reverse ++ [[]])
  | more {above left rest resolved : List (List Char)} {segment : List Char} :
    ¬IsKept segment → left <:+ above → rest ≠ [] → Resolves left rest resolved →
      Resolves above (segment :: rest) resolved

theorem resolves (above segments : List (List Char)) : Resolves above segments (resolve above segments) := by
  induction segments generalizing above with
  | nil => exact .nil above
  | cons segment rest ih =>
    by_cases hkept : IsKept segment
    · rw [resolve_cons_of_isKept hkept]
      exact .kept hkept (ih _)
    · obtain ⟨left, hleft, hlast, hmore⟩ := exists_resolve_cons_of_not_isKept hkept above
      by_cases hrest : rest = []
      · rw [hrest, hlast]
        exact .last hkept hleft
      · rw [hmore rest hrest]
        exact .more hkept hleft hrest (ih left)

namespace Resolves

variable {above segments resolved : List (List Char)}

theorem length_le (h : Resolves above segments resolved) : resolved.length ≤ above.length + segments.length := by
  induction h with
  | nil above => simp
  | kept _ _ ih =>
    simp only [List.length_cons] at ih ⊢
    omega
  | last _ hleft => simpa using hleft.length_le
  | more _ hleft _ _ ih =>
    have hle := hleft.length_le
    rw [List.length_cons]
    omega

theorem ne_nil (h : Resolves above segments resolved) (hne : segments ≠ [] ∨ above ≠ []) : resolved ≠ [] := by
  induction h with
  | nil above => simpa using hne
  | kept _ _ ih => exact ih (.inr (List.cons_ne_nil _ _))
  | last _ _ => exact List.append_ne_nil_of_right_ne_nil _ (List.cons_ne_nil _ _)
  | more _ _ hrest _ ih => exact ih (.inl hrest)

theorem mem (h : Resolves above segments resolved) {s : List Char} (hs : s ∈ resolved) :
    s ∈ above ∨ s ∈ segments ∨ s = [] := by
  induction h with
  | nil above => exact .inl (List.mem_reverse.mp hs)
  | kept _ _ ih =>
    obtain habove | hrest | hempty := ih hs
    · exact (List.mem_cons.mp habove).elim (fun heq => .inr (.inl (heq ▸ List.mem_cons_self))) .inl
    · exact .inr (.inl (List.mem_cons_of_mem _ hrest))
    · exact .inr (.inr hempty)
  | last _ hleft =>
    rw [List.mem_append, List.mem_reverse, List.mem_singleton] at hs
    exact hs.imp (fun hs => hleft.subset hs) .inr
  | more _ hleft _ _ ih => exact (ih hs).imp (fun hs => hleft.subset hs) (.imp_left (List.mem_cons_of_mem _))

/-- If no segment is missing, all stay but perhaps the last one. -/
theorem dropLast_eq (h : Resolves above segments resolved)
    (hlength : resolved.length = above.length + segments.length) :
    resolved.dropLast = (above.reverse ++ segments).dropLast := by
  induction h with
  | nil above => rw [List.append_nil]
  | kept _ _ ih =>
    simpa using ih (by simp only [List.length_cons] at hlength ⊢; omega)
  | last _ hleft =>
    rw [hleft.eq_of_length (by simpa using hlength), List.dropLast_concat, List.dropLast_concat]
  | more _ hleft _ hrest =>
    have hle := hleft.length_le
    have hbound := hrest.length_le
    rw [List.length_cons] at hlength
    omega

theorem forall_isKept (h : Resolves above segments (above.reverse ++ segments)) : ∀ s ∈ segments, IsKept s := by
  generalize hsame : above.reverse ++ segments = resolved at h
  induction h with
  | nil above => exact List.forall_mem_nil _
  | kept hkept _ ih => exact List.forall_mem_cons.mpr ⟨hkept, ih (by simpa using hsame)⟩
  | last hkept _ =>
    -- The path is closed by an empty segment, which would be the one that does not stay.
    have hempty := congrArg List.getLast? hsame
    simp only [List.getLast?_concat, Option.some.injEq] at hempty
    exact absurd (hempty ▸ isKept_nil) hkept
  | more _ hleft _ hrest =>
    -- A segment is missing.
    have hle := hleft.length_le
    have hbound := hrest.length_le
    rw [← hsame, List.length_append, List.length_reverse, List.length_cons] at hbound
    omega

end Resolves

/-- A path stays as it is exactly if all its segments do. -/
theorem resolve_eq_append_iff {above segments : List (List Char)} :
    resolve above segments = above.reverse ++ segments ↔ ∀ s ∈ segments, IsKept s := by
  refine ⟨fun h => (h ▸ resolves above segments).forall_isKept, fun h => ?_⟩
  have happend := resolve_append_of_isKept h above []
  rwa [List.append_nil, resolve, List.reverse_append, List.reverse_reverse] at happend

/-! ### Paths below the path of a node -/

/-- The path of a node: it starts and ends with a slash, and there are slashes of one kind only. -/
structure IsBase (path : String) : Prop where
  head : path.toList.head? = some '/'
  last : path.toList.getLast? = some '/'
  backslash : '\\' ∉ path.toList

theorem isBase_root : IsBase "/" := ⟨rfl, rfl, by decide⟩

/-- The segments of a path that ends with a slash. -/
def directories (path : String) : List (List Char) := (Text.splitChars '/' path.toList).tail.dropLast

variable {base : String}

theorem IsBase.intercalate_directories (h : IsBase base) {segments : List (List Char)} (hne : segments ≠ []) :
    '/' :: ['/'].intercalate (directories base ++ segments) = base.toList ++ ['/'].intercalate segments := by
  obtain ⟨path, hpath⟩ := List.getLast?_eq_some_iff.mp h.last
  have hhead := h.head
  rw [hpath] at hhead
  rw [directories, hpath]
  cases path with
  | nil => rfl
  | cons c path =>
    obtain rfl : c = '/' := Option.some.inj hhead
    have hsplit : Text.splitChars '/' ('/' :: path ++ ['/']) = [] :: (Text.splitChars '/' path ++ [[]]) := by
      rw [List.cons_append, Text.splitChars, if_pos rfl, Text.splitChars_append_cons]
      rfl
    rw [hsplit, List.tail_cons, List.dropLast_concat,
      Text.intercalate_append (Text.splitChars_ne_nil '/' path) hne, Text.intercalate_splitChars]
    simp

theorem mem_of_mem_directories {path : String} {segment : List Char} (h : segment ∈ directories path) {c : Char}
    (hc : c ∈ segment) : c ∈ path.toList ∧ c ≠ '/' :=
  Text.mem_of_mem_splitChars (List.mem_of_mem_tail (List.dropLast_subset _ h)) hc

theorem not_mem_withSlashes (cs : List Char) : '\\' ∉ withSlashes true cs := by
  rw [withSlashes, List.mem_map]
  rintro ⟨c, -, hc⟩
  split at hc
  · exact absurd hc (by decide)
  · rename_i hslash
    exact hslash (by simp [isSlash, hc])

/-- Segments with slashes between each two are read again if they have no slashes of any kind. -/
theorem splitChars_withSlashes {segments : List (List Char)} (hne : segments ≠ [])
    (h : ∀ s ∈ segments, '/' ∉ s ∧ '\\' ∉ s) :
    Text.splitChars '/' (withSlashes true (['/'].intercalate segments)) = segments := by
  have hsame : withSlashes true (['/'].intercalate segments) = ['/'].intercalate segments := by
    refine (List.map_congr_left fun c hc => ?_).trans (List.map_id' _)
    refine ite_eq_right_iff.mpr fun hslash => ?_
    obtain rfl | ⟨s, hs, hcs⟩ := Text.mem_of_mem_intercalate hc
    · rfl
    · simp only [isSlash, Bool.true_and, Bool.or_eq_true, decide_eq_true_eq] at hslash
      obtain rfl | rfl := hslash
      · rfl
      · exact absurd hcs (h s hs).2
  rw [hsame, Text.splitChars_intercalate hne fun s hs => (h s hs).1]

/-- Without slashes of any kind in the segments above, a resolved path has none within its segments. -/
theorem not_mem_of_mem_resolve {above : List (List Char)} (habove : ∀ s ∈ above, '/' ∉ s ∧ '\\' ∉ s)
    {cs : List Char} (hcs : '\\' ∉ cs) : ∀ s ∈ resolve above (Text.splitChars '/' cs), '/' ∉ s ∧ '\\' ∉ s := by
  intro s hs
  obtain hmem | hmem | rfl := (resolves _ _).mem hs
  · exact habove s hmem
  · exact ⟨fun hc => (Text.mem_of_mem_splitChars hmem hc).2 rfl,
      fun hc => hcs (Text.mem_of_mem_splitChars hmem hc).1⟩
  · exact ⟨List.not_mem_nil, List.not_mem_nil⟩

theorem backslash_not_mem_intercalate {segments : List (List Char)} (h : ∀ s ∈ segments, '/' ∉ s ∧ '\\' ∉ s) :
    '\\' ∉ '/' :: ['/'].intercalate segments := by
  intro hmem
  obtain hslash | hmem := List.mem_cons.mp hmem
  · exact absurd hslash (by decide)
  · obtain hslash | ⟨s, hs, hc⟩ := Text.mem_of_mem_intercalate hmem
    · exact absurd hslash (by decide)
    · exact (h s hs).2 hc

theorem IsBase.not_mem_of_mem_directories (h : IsBase base) :
    ∀ s ∈ (directories base).reverse, '/' ∉ s ∧ '\\' ∉ s := by
  intro s hs
  rw [List.mem_reverse] at hs
  exact ⟨fun hc => (mem_of_mem_directories hs hc).2 rfl, fun hc => h.backslash (mem_of_mem_directories hs hc).1⟩

theorem IsBase.not_mem_of_mem_below (h : IsBase base) (cs : List Char) :
    ∀ s ∈ resolve (directories base).reverse (Text.splitChars '/' (withSlashes true cs)), '/' ∉ s ∧ '\\' ∉ s :=
  not_mem_of_mem_resolve h.not_mem_of_mem_directories (not_mem_withSlashes cs)

theorem toList_below (named : Bool) (path : String) (cs : List Char) :
    (below named path cs).toList =
      '/' :: ['/'].intercalate
        (resolve (directories path).reverse (Text.splitChars '/' (withSlashes named cs))) := by
  rw [below, String.toList_ofList, directories]

theorem IsBase.backslash_not_mem_below (h : IsBase base) (cs : List Char) :
    '\\' ∉ (below true base cs).toList := by
  rw [toList_below]
  exact backslash_not_mem_intercalate (h.not_mem_of_mem_below cs)

theorem IsBase.below_eq_iff {other : String} (hother : IsBase other) (hbase : IsBase base)
    {segments : List (List Char)} (hne : segments ≠ []) (hslash : ∀ s ∈ segments, '/' ∉ s) {cs : List Char} :
    below true other cs = base ++ String.ofList (['/'].intercalate segments) ↔
      resolve (directories other).reverse (Text.splitChars '/' (withSlashes true cs)) =
        directories base ++ segments := by
  rw [String.ext_iff, toList_below, String.toList_append, String.toList_ofList,
    ← hbase.intercalate_directories hne, List.cons_inj_right]
  refine ⟨fun heq => ?_, fun heq => congrArg _ heq⟩
  have hnames : ∀ s ∈ directories base ++ segments, '/' ∉ s := fun s hs =>
    (List.mem_append.mp hs).elim (fun hs hc => (mem_of_mem_directories hs hc).2 rfl) (hslash s)
  have hsplit := congrArg (Text.splitChars '/') heq
  rwa [Text.splitChars_intercalate ((resolves _ _).ne_nil (.inl (Text.splitChars_ne_nil '/' _)))
      fun s hs => (hother.not_mem_of_mem_below cs s hs).1,
    Text.splitChars_intercalate (List.append_ne_nil_of_right_ne_nil _ hne) hnames] at hsplit

/-- Segments lead to where they are named exactly if they are literal. -/
theorem IsBase.below_eq_append_iff (hbase : IsBase base) {segments : List (List Char)} (hne : segments ≠ [])
    (h : ∀ s ∈ segments, ∀ c ∈ ['/', '?', '#'], c ∉ s) :
    below true base (['/'].intercalate segments) = base ++ String.ofList (['/'].intercalate segments) ↔
      ∀ s ∈ segments, IsLiteral s := by
  have hslash (s : List Char) (hs : s ∈ segments) : '/' ∉ s := h s hs '/' (by simp)
  rw [hbase.below_eq_iff hbase hne hslash]
  refine ⟨fun heq => ?_, fun hliteral => ?_⟩
  · have hbackslash (s : List Char) (hs : s ∈ segments) : '\\' ∉ s :=
      (hbase.not_mem_of_mem_below _ s (heq ▸ List.mem_append_right _ hs)).2
    rw [splitChars_withSlashes hne fun s hs => ⟨hslash s hs, hbackslash s hs⟩] at heq
    have hkept := resolve_eq_append_iff.mp (heq.trans (by rw [List.reverse_reverse]))
    intro s hs
    have hchars : ∀ c ∈ ['/', '\\', '?', '#'], c ∉ s :=
      List.forall_mem_cons.mpr ⟨hslash s hs, List.forall_mem_cons.mpr ⟨hbackslash s hs,
        fun c hc => h s hs c (List.mem_cons_of_mem '/' hc)⟩⟩
    exact ⟨hchars, hkept s hs⟩
  · rw [splitChars_withSlashes hne fun s hs => ⟨hslash s hs, (hliteral s hs).1 '\\' (by simp)⟩,
      resolve_eq_append_iff.mpr fun s hs => (hliteral s hs).isKept, List.reverse_reverse]

/-- The root and the path of a node are apart by the segments that they start with. -/
theorem IsBase.below_root_ne (hbase : IsBase base) {first : List Char} {rest : List (List Char)} (hne : rest ≠ [])
    (hslash : ∀ s ∈ first :: rest, '/' ∉ s ∧ '\\' ∉ s) :
    below true "/" (['/'].intercalate rest) ≠ base ++ String.ofList (['/'].intercalate (first :: rest)) := by
  intro heq
  rw [isBase_root.below_eq_iff hbase (List.cons_ne_nil _ _) fun s hs => (hslash s hs).1,
    splitChars_withSlashes hne fun s hs => hslash s (List.mem_cons_of_mem first hs)] at heq
  have hlength := (resolves (directories "/").reverse rest).length_le
  rw [heq, show directories "/" = [] by decide, List.length_append, List.length_cons] at hlength
  simp only [List.reverse_nil, List.length_nil] at hlength
  omega

theorem IsBase.eq_of_below_eq (hbase : IsBase base) {first other second : List Char} {rest : List (List Char)}
    (hslash : ∀ s ∈ first :: second :: rest, '/' ∉ s ∧ '\\' ∉ s) (hother : '/' ∉ other ∧ '\\' ∉ other)
    (heq : below true base (['/'].intercalate (other :: second :: rest)) =
      base ++ String.ofList (['/'].intercalate (first :: second :: rest))) : other = first := by
  rw [hbase.below_eq_iff hbase (List.cons_ne_nil _ _) fun s hs => (hslash s hs).1,
    splitChars_withSlashes (List.cons_ne_nil _ _)
      (List.forall_mem_cons.mpr ⟨hother, (List.forall_mem_cons.mp hslash).2⟩)] at heq
  have hkept := (resolves (directories base).reverse (other :: second :: rest)).dropLast_eq (by simp [heq])
  rw [heq, List.reverse_reverse, List.dropLast_append_of_ne_nil (List.cons_ne_nil _ _),
    List.dropLast_append_of_ne_nil (List.cons_ne_nil _ _)] at hkept
  simpa using (List.append_cancel_left hkept).symm

/-- What segments lead to that all are literal but the last one. -/
theorem resolve_concat {segments : List (List Char)} (h : ∀ s ∈ segments, IsLiteral s) {last : List Char}
    (hlast : '/' ∉ last ∧ '\\' ∉ last) (above : List (List Char)) :
    resolve above (Text.splitChars '/' (withSlashes true (['/'].intercalate (segments ++ [last])))) =
      resolve (segments.reverse ++ above) [last] := by
  have hslashes : ∀ s ∈ segments ++ [last], '/' ∉ s ∧ '\\' ∉ s := by
    intro s hs
    obtain hs | hs := List.mem_append.mp hs
    · exact ⟨(h s hs).1 '/' (by simp), (h s hs).1 '\\' (by simp)⟩
    · exact List.mem_singleton.mp hs ▸ hlast
  rw [splitChars_withSlashes (by simp) hslashes, resolve_append_of_isKept fun s hs => (h s hs).isKept]

theorem slash_not_mem_of_literal {segments : List (List Char)} (h : ∀ s ∈ segments, IsLiteral s) :
    ∀ s ∈ segments ++ [[]], '/' ∉ s := by
  intro s hs
  obtain hs | hs := List.mem_append.mp hs
  · exact (h s hs).1 '/' (by simp)
  · simp [List.mem_singleton.mp hs]

/-- Behind literal segments, a dot leads to the directory that they name. -/
theorem IsBase.below_dot (hbase : IsBase base) {segments : List (List Char)} (h : ∀ s ∈ segments, IsLiteral s) :
    below true base (['/'].intercalate (segments ++ [['.']])) =
      base ++ String.ofList (['/'].intercalate (segments ++ [[]])) := by
  rw [hbase.below_eq_iff hbase (by simp) (slash_not_mem_of_literal h), resolve_concat h (by decide), resolve_dot]
  simp

theorem IsBase.below_doubleDot (hbase : IsBase base) {segments : List (List Char)} {last : List Char}
    (h : ∀ s ∈ segments ++ [last], IsLiteral s) :
    below true base (['/'].intercalate (segments ++ [last] ++ [['.', '.']])) =
      base ++ String.ofList (['/'].intercalate (segments ++ [[]])) := by
  have hfront : ∀ s ∈ segments, IsLiteral s := fun s hs => h s (List.mem_append_left _ hs)
  rw [hbase.below_eq_iff hbase (by simp) (slash_not_mem_of_literal hfront), resolve_concat h (by decide),
    resolve_doubleDot]
  simp

end Node

end SearchStore.Http
