import Mathlib.Data.List.DropRight
import SearchStore.Proofs.Http.Resolution
import SearchStore.Proofs.Results

/-!
# References at nodes

A node whose scheme names a host has a host and a path (`exists_isHost_of_parse`). A reference that names no
scheme and starts with no slash leads below that path (`IsHost.follow_of_isRelative`).

`IsHost.follow_eq_place_iff` says which segments lead to where they are named: those that start a relative
reference and all are literal. What starts with a scheme or with a backslash does not.
-/

namespace SearchStore.Http

namespace Node

/-! ### Paths of nodes -/

theorem upToSlash {cs : List Char} (hhead : cs.head? = some '/') :
    (cs.rdropWhile (· ≠ '/')).head? = some '/' ∧ (cs.rdropWhile (· ≠ '/')).getLast? = some '/' := by
  obtain ⟨rest, rfl⟩ := List.head?_eq_some_iff.mp hhead
  have hne : ('/' :: rest).rdropWhile (· ≠ '/') ≠ [] := by
    rw [Ne, List.rdropWhile_eq_nil_iff]
    exact fun h => by simpa using h '/' List.mem_cons_self
  refine ⟨?_, ?_⟩
  · rw [← List.head_eq_iff_head?_eq_some hne, (List.rdropWhile_prefix _ _).head hne, List.head_cons]
  · have hlast := List.rdropWhile_last_not _ _ hne
    rw [List.getLast?_eq_some_getLast hne]
    simpa using hlast

theorem isBase_percentEncode {cs : List Char} (hhead : cs.head? = some '/') (hlast : cs.getLast? = some '/')
    (hbackslash : '\\' ∉ cs) : IsBase (Text.percentEncode Text.isPathChar (String.ofList cs)) where
  head := by
    obtain ⟨rest, rfl⟩ := List.head?_eq_some_iff.mp hhead
    rw [Text.percentEncode, String.toList_ofList, String.toList_ofList, List.flatMap_cons]
    rfl
  last := by
    obtain ⟨rest, rfl⟩ := List.getLast?_eq_some_iff.mp hlast
    rw [Text.percentEncode, String.toList_ofList, String.toList_ofList, List.flatMap_append]
    exact List.getLast?_concat
  backslash := by
    intro h
    obtain ⟨-, hmem⟩ | hescape := Text.mem_percentEncode h
    · exact hbackslash (by simpa using hmem)
    · exact absurd hescape (by decide)

theorem isBase_pathText (cs : List Char) : IsBase (pathText true cs) := by
  unfold pathText
  extract_lets endsPath path below whole closed upTo
  have hpath : '\\' ∉ path := not_mem_withSlashes _
  have hbelow : '\\' ∉ below := by
    simp only [below]
    split
    · exact fun h => hpath (List.mem_of_mem_tail h)
    · exact hpath
  have hwhole : '\\' ∉ whole :=
    backslash_not_mem_intercalate (not_mem_of_mem_resolve (List.forall_mem_nil _) hbelow)
  have hclosed : closed.head? = some '/' ∧ '\\' ∉ closed := by
    simp only [closed]
    split
    · exact ⟨rfl, hwhole⟩
    · exact ⟨rfl, by simpa using hwhole⟩
  exact isBase_percentEncode (upToSlash hclosed.1).1 (upToSlash hclosed.1).2
    fun h => hclosed.2 ((List.rdropWhile_prefix _ _).subset h)

/-- A node with a host, and with a path below which there are others. -/
structure IsHost (node : Node) (base : String) : Prop where
  scheme : (hostSchemes.lookup node.scheme).isSome = true
  authority : node.authority.isSome = true
  path : node.path = some base
  isBase : IsBase base

theorem exists_isHost_of_parse {text : String} {node : Node} (h : parse text = .ok node)
    (hscheme : (hostSchemes.lookup node.scheme).isSome = true) : ∃ base, node.IsHost base := by
  rw [parse] at h
  split at h
  · cases h
  · split at h
    · obtain ⟨site, -, rfl⟩ := exists_of_map_eq_ok h
      exact ⟨_, hscheme, rfl, rfl, isBase_pathText site.rest⟩
    · rename_i scheme rest _ hnamed
      have hsame : node.scheme = scheme := by
        split at h
        · obtain ⟨site, -, rfl⟩ := exists_of_map_eq_ok h
          rfl
        all_goals
          cases h
          rfl
      exact absurd (hsame ▸ hscheme) hnamed

/-! ### Schemes -/

theorem scheme?_append_slash (cs rest : List Char) :
    scheme? (cs ++ '/' :: rest) = (scheme? cs).map fun (scheme, behind) => (scheme, behind ++ '/' :: rest) := by
  have hslash : isSchemeChar '/' = false := by decide
  have htake : (cs ++ '/' :: rest).takeWhile isSchemeChar = cs.takeWhile isSchemeChar := by
    rw [List.takeWhile_append, List.takeWhile_cons_of_neg (by simp [hslash]), List.append_nil]
    split
    · rename_i hall
      exact ((List.takeWhile_prefix _).eq_of_length hall).symm
    · rfl
  have hdrop : (cs ++ '/' :: rest).dropWhile isSchemeChar = cs.dropWhile isSchemeChar ++ '/' :: rest := by
    rw [List.dropWhile_append, List.dropWhile_cons_of_neg (by simp [hslash])]
    split
    · rename_i hnil
      rw [List.isEmpty_iff.mp hnil, List.nil_append]
    · rfl
  rw [scheme?, scheme?, htake, hdrop]
  cases hname : cs.takeWhile isSchemeChar with
  | nil => rfl
  | cons first name =>
    cases hbehind : cs.dropWhile isSchemeChar with
    | nil => rfl
    | cons c behind =>
      by_cases hc : c = ':'
      · subst hc
        simp only [List.cons_append]
        split <;> rfl
      · simp [hc]

theorem exists_of_scheme?_eq_some {cs behind : List Char} {scheme : String}
    (h : scheme? cs = some (scheme, behind)) : ∃ name, cs = name ++ ':' :: behind := by
  rw [scheme?] at h
  split at h
  · rename_i first name behind' hname hbehind
    split at h
    · cases h
      exact ⟨first :: name, by rw [← hname, ← hbehind, List.takeWhile_append_dropWhile]⟩
    · cases h
  · cases h

/-! ### References -/

/-- Whether a text starts a reference below the path of a node: it names no scheme, and no slash of any kind
stands in front. -/
def IsRelative (cs : List Char) : Prop := scheme? cs = none ∧ cs.head?.any (isSlash true) = false

instance : DecidablePred IsRelative := fun _ => inferInstanceAs (Decidable (_ ∧ _))

theorem IsRelative.append_slash {cs : List Char} (h : IsRelative cs) (hne : cs ≠ []) (rest : List Char) :
    IsRelative (cs ++ '/' :: rest) := by
  refine ⟨by rw [scheme?_append_slash, h.1, Option.map_none], ?_⟩
  rw [List.head?_append_of_ne_nil _ hne]
  exact h.2

theorem IsRelative.intercalate {first : List Char} (h : IsRelative first) (hne : first ≠ []) {second : List Char}
    (rest : List (List Char)) : IsRelative (['/'].intercalate (first :: second :: rest)) := by
  rw [List.intercalate_cons_cons, List.append_assoc]
  exact h.append_slash hne _

theorem dropWhile_isSlash {cs : List Char} (h : cs.head?.any (isSlash true) = false) :
    cs.dropWhile (isSlash true) = cs := by
  cases cs with
  | nil => rfl
  | cons c rest => exact List.dropWhile_cons_of_neg (by simpa using h)

variable {node : Node} {base : String}

theorem IsHost.followPath_eq (h : node.IsHost base) {cs : List Char} (hcs : cs.head?.any (isSlash true) = false) :
    node.followPath cs = .ok (node.place (below true base cs)) := by
  simp [followPath, h.path, h.scheme, dropWhile_isSlash hcs]

theorem place_inj {path other : String} : node.place path = node.place other ↔ path = other :=
  ⟨congrArg Destination.path, congrArg node.place⟩

theorem IsHost.followPath_slash (h : node.IsHost base) {cs : List Char}
    (hcs : cs.head?.any (isSlash true) = false) :
    node.followPath ('/' :: cs) = .ok (node.place (below true "/" cs)) := by
  have hdrop : ('/' :: cs).dropWhile (isSlash true) = cs := by
    rw [List.dropWhile_cons_of_pos rfl, dropWhile_isSlash hcs]
  simp [followPath, h.path, h.scheme, hdrop]

theorem IsHost.follow_of_isRelative (h : node.IsHost base) {cs : List Char} (hcs : IsRelative cs) :
    node.follow cs = .ok (node.place (below true base cs)) := by
  rw [follow, hcs.1, h.followPath_eq hcs.2]

theorem IsHost.backslash_not_mem_followPath (h : node.IsHost base) {cs : List Char} {d : Destination}
    (hd : node.followPath cs = .ok d) : '\\' ∉ d.path.toList := by
  rw [followPath, h.path, h.scheme] at hd
  simp only at hd
  split at hd
  · cases hd
    exact h.isBase.backslash_not_mem_below cs
  · cases hd
    exact isBase_root.backslash_not_mem_below _
  · obtain ⟨site, -, rfl⟩ := exists_of_map_eq_ok hd
    exact isBase_root.backslash_not_mem_below _

/-- How a reference can lead to the site of a node: it names no scheme, or that of the node, which counts as none
unless two slashes follow. -/
theorem IsHost.follow_cases (h : node.IsHost base) {cs : List Char} {path : String}
    (hd : node.follow cs = .ok (node.place path)) :
    (scheme? cs = none ∧ node.followPath cs = .ok (node.place path)) ∨
    ∃ rest, scheme? cs = some (node.scheme, rest) ∧
      (node.followPath rest = .ok (node.place path) ∨
        (rest.dropWhile (isSlash true)).length + 2 ≤ rest.length ∧
          ∃ site : Site, path = wholePath true site.rest) := by
  rw [follow] at hd
  split at hd
  · rename_i hscheme
    exact .inl ⟨hscheme, hd⟩
  · rename_i scheme rest hscheme
    simp only at hd
    split at hd
    · split at hd
      · rename_i hfew
        simp only [Bool.and_eq_true, decide_eq_true_eq] at hfew
        exact .inr ⟨rest, hfew.1 ▸ hscheme, .inl hd⟩
      · rename_i hmany
        obtain ⟨site, -, hsite⟩ := exists_of_map_eq_ok hd
        obtain rfl : scheme = node.scheme := congrArg Destination.scheme hsite
        simp only [decide_true, Bool.true_and, decide_eq_true_eq, not_lt] at hmany
        exact .inr ⟨rest, hscheme, .inr ⟨hmany, site, (congrArg Destination.path hsite).symm⟩⟩
    · rename_i hnamed
      have hsame : scheme = node.scheme := by
        split at hd
        · obtain ⟨site, -, hsite⟩ := exists_of_map_eq_ok hd
          exact congrArg Destination.scheme hsite
        · exact congrArg Destination.scheme (Except.ok.inj hd)
        · exact congrArg Destination.scheme (Except.ok.inj hd)
      exact absurd (hsame ▸ h.scheme) hnamed

/-- A reference that leads to the site of a node leads to a path with slashes of one kind. -/
theorem IsHost.backslash_not_mem_follow (h : node.IsHost base) {cs : List Char} {path : String}
    (hd : node.follow cs = .ok (node.place path)) : '\\' ∉ path.toList := by
  obtain ⟨-, hpath⟩ | ⟨rest, -, hpath | ⟨-, site, rfl⟩⟩ := h.follow_cases hd
  · exact h.backslash_not_mem_followPath hpath
  · exact h.backslash_not_mem_followPath hpath
  · exact isBase_root.backslash_not_mem_below _

/-- No slash stands in front of a text that starts with a segment. -/
theorem head?_append_isSlash {segment : List Char} (hne : segment ≠ []) (h : '/' ∉ segment ∧ '\\' ∉ segment)
    (rest : List Char) : (segment ++ rest).head?.any (isSlash true) = false := by
  obtain ⟨c, cs, rfl⟩ := List.exists_cons_of_ne_nil hne
  simp only [List.mem_cons, not_or] at h
  simp [isSlash, Ne.symm h.1.1, Ne.symm h.2.1]

theorem head?_intercalate_isSlash {segment : List Char} (hne : segment ≠ []) (h : '/' ∉ segment ∧ '\\' ∉ segment)
    (rest : List (List Char)) : (['/'].intercalate (segment :: rest)).head?.any (isSlash true) = false := by
  cases rest with
  | nil => simpa using head?_append_isSlash hne h []
  | cons next rest =>
    rw [List.intercalate_cons_cons, List.append_assoc]
    exact head?_append_isSlash hne h _

section

variable {first second : List Char} {rest : List (List Char)}

/-- Segments below the root are nowhere below another segment. -/
theorem IsHost.followPath_slash_ne (h : node.IsHost base) (hsecond : second ≠ [])
    (hslash : ∀ s ∈ first :: second :: rest, '/' ∉ s ∧ '\\' ∉ s) :
    node.followPath ('/' :: ['/'].intercalate (second :: rest)) ≠
      .ok (node.place (base ++ String.ofList (['/'].intercalate (first :: second :: rest)))) := by
  rw [h.followPath_slash (head?_intercalate_isSlash hsecond (hslash second (by simp)) rest)]
  intro hpath
  exact h.isBase.below_root_ne (List.cons_ne_nil second rest) hslash
    (congrArg Destination.path (Except.ok.inj hpath))

theorem IsHost.eq_of_followPath_eq (h : node.IsHost base) {other : List Char} (hne : other ≠ [])
    (hother : '/' ∉ other ∧ '\\' ∉ other) (hslash : ∀ s ∈ first :: second :: rest, '/' ∉ s ∧ '\\' ∉ s)
    (hpath : node.followPath (['/'].intercalate (other :: second :: rest)) =
      .ok (node.place (base ++ String.ofList (['/'].intercalate (first :: second :: rest))))) :
    other = first := by
  rw [h.followPath_eq (head?_intercalate_isSlash hne hother _)] at hpath
  exact h.isBase.eq_of_below_eq hslash hother (congrArg Destination.path (Except.ok.inj hpath))

/-- Segments behind a scheme lead elsewhere than the same segments with the scheme in the first one. -/
theorem IsHost.follow_ne_place (h : node.IsHost base) (hsecond : second ≠ [])
    (hslash : ∀ s ∈ first :: second :: rest, '/' ∉ s ∧ '\\' ∉ s) (hscheme : scheme? first ≠ none) :
    node.follow (['/'].intercalate (first :: second :: rest)) ≠
      .ok (node.place (base ++ String.ofList (['/'].intercalate (first :: second :: rest)))) := by
  intro hd
  obtain ⟨⟨scheme, more⟩, hfirst⟩ := Option.ne_none_iff_exists'.mp hscheme
  obtain ⟨name, hname⟩ := exists_of_scheme?_eq_some hfirst
  have hcs : scheme? (['/'].intercalate (first :: second :: rest)) =
      some (scheme, more ++ '/' :: ['/'].intercalate (second :: rest)) := by
    rw [List.intercalate_cons_cons, List.append_assoc, List.singleton_append, scheme?_append_slash, hfirst]
    rfl
  obtain ⟨hnone, -⟩ | ⟨cs, hsome, hfollow⟩ := h.follow_cases hd
  · rw [hcs] at hnone
    cases hnone
  obtain ⟨rfl, rfl⟩ := Prod.mk.inj (Option.some.inj (hcs.symm.trans hsome))
  by_cases hmore : more = []
  · -- The scheme is all of the first segment, and the others lead to the root.
    subst hmore
    obtain hpath | ⟨hlength, -⟩ := hfollow
    · exact h.followPath_slash_ne hsecond hslash hpath
    · rw [List.nil_append, List.dropWhile_cons_of_pos rfl, List.length_cons,
        dropWhile_isSlash (head?_intercalate_isSlash hsecond (hslash second (by simp)) rest)] at hlength
      omega
  · -- What is left of the first segment is shorter.
    have hshort : '/' ∉ more ∧ '\\' ∉ more := by
      have hmem : more ⊆ first := fun d hd => by simp [hname, hd]
      have hfirst := hslash first List.mem_cons_self
      exact ⟨fun hd => hfirst.1 (hmem hd), fun hd => hfirst.2 (hmem hd)⟩
    obtain hpath | ⟨hlength, -⟩ := hfollow
    · rw [← List.singleton_append, ← List.append_assoc, ← List.intercalate_cons_cons] at hpath
      have hsame := congrArg List.length (h.eq_of_followPath_eq hmore hshort hslash hpath)
      rw [hname, List.length_append, List.length_cons] at hsame
      omega
    · rw [dropWhile_isSlash (head?_append_isSlash hmore hshort _)] at hlength
      omega

end

/-- Segments lead below the path of a node to where they are named exactly if they are relative and literal. -/
theorem IsHost.follow_eq_place_iff (h : node.IsHost base) {first second : List Char} {rest : List (List Char)}
    (hfirst : first ≠ []) (hsecond : second ≠ [])
    (hchars : ∀ s ∈ first :: second :: rest, ∀ c ∈ ['/', '?', '#'], c ∉ s) :
    node.follow (['/'].intercalate (first :: second :: rest)) =
        .ok (node.place (base ++ String.ofList (['/'].intercalate (first :: second :: rest)))) ↔
      IsRelative first ∧ ∀ s ∈ first :: second :: rest, IsLiteral s := by
  have hslash (s : List Char) (hs : s ∈ first :: second :: rest) : '/' ∉ s := hchars s hs '/' (by simp)
  by_cases hrelative : IsRelative first
  · rw [h.follow_of_isRelative (hrelative.intercalate hfirst rest), Except.ok.injEq, place_inj,
      h.isBase.below_eq_append_iff (List.cons_ne_nil _ _) hchars]
    exact (and_iff_right hrelative).symm
  · refine iff_of_false (fun hd => ?_) fun h => hrelative h.1
    have hpath := h.backslash_not_mem_follow hd
    rw [String.toList_append, String.toList_ofList] at hpath
    have hslashes : ∀ s ∈ first :: second :: rest, '/' ∉ s ∧ '\\' ∉ s := fun s hs =>
      ⟨hslash s hs, fun hc => hpath (List.mem_append_right _ (Text.mem_of_mem_splitChars
        ((Text.splitChars_intercalate (List.cons_ne_nil _ _) hslash).symm ▸ hs) hc).1)⟩
    have hhead := head?_append_isSlash hfirst (hslashes first List.mem_cons_self) []
    rw [List.append_nil] at hhead
    exact h.follow_ne_place hsecond hslashes (fun hnone => hrelative ⟨hnone, hhead⟩) hd

end Node

end SearchStore.Http
