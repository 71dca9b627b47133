import Mathlib.Data.Bool.AllAny
import SearchStore.Compiler
import SearchStore.Proofs.Pattern.Suggestion

/-!
# Phrases of searches

With the pattern of suggestions as it is unless configured otherwise, a phrase asks for completions if it is `suggest:`
with a path, an equals sign and the start of a line behind it (`AsksCompletion`). All other phrases are searched as they
are. `phrases_translate` says so, and that the field of completions is the path without the types that stand between its
names.
-/

namespace SearchStore

open Clause (searchClause completionClause completionField matchClause everyOther)
open Pattern (suggestion pathSet termSet Suggests suggestWord suggestionMarks)

/-! ### What phrases ask for -/

/-- The phrase is `suggest:`, a path of dots and word characters, an equals sign, and some text that does not start with
the end of a line. -/
structure AsksCompletion (phrase : String) (path : List Char) (c : Char) (rest : List Char) : Prop where
  phrase_eq : phrase.toList = "suggest:".toList ++ path ++ '=' :: c :: rest
  path_ne_nil : path ≠ []
  inPath : ∀ d ∈ path, d = '.' ∨ Text.isWordChar d = true
  inLine : c ≠ '\n'

theorem holds_pathSet_iff {c : Char} : pathSet.holds c = true ↔ c = '.' ∨ Text.isWordChar c = true := by
  rw [Pattern.holds_pathSet, Bool.or_eq_true, beq_iff_eq]

theorem takeWhile_termSet (text : List Char) : text.takeWhile termSet.holds = text.takeWhile (· != '\n') := by
  rw [funext Pattern.holds_termSet]

theorem suggests_iff {phrase : String} {path behind : List Char} :
    Suggests pathSet termSet phrase.toList path behind ↔
      ∃ c rest, behind = c :: rest ∧ AsksCompletion phrase path c rest := by
  constructor
  · rintro ⟨htext, hpath, hall, hterm⟩
    obtain _ | ⟨c, rest⟩ := behind
    · exact absurd rfl hterm
    · refine ⟨c, rest, rfl, by rw [htext, List.append_assoc]; rfl, hpath,
        fun d hd => holds_pathSet_iff.mp (hall d hd), ?_⟩
      rintro rfl
      exact hterm (List.takeWhile_cons_of_neg (by simp [Pattern.holds_termSet]))
  · rintro ⟨c, rest, rfl, htext, hpath, hall, hline⟩
    refine ⟨by rw [htext, List.append_assoc]; rfl, hpath, fun d hd => holds_pathSet_iff.mpr (hall d hd), ?_⟩
    rw [List.takeWhile_cons_of_pos (by simpa [Pattern.holds_termSet] using hline)]
    exact List.cons_ne_nil _ _

theorem find?_suggestion_eq_some_iff {phrase : String} {found : Pattern.Match} :
    (suggestion pathSet termSet).find? phrase = some found ↔
      ∃ path behind, Suggests pathSet termSet phrase.toList path behind ∧
        found = ⟨phrase.toList, suggestionMarks path (behind.takeWhile termSet.holds)⟩ := by
  have hequals : pathSet.holds '=' = false := by rw [Pattern.holds_pathSet]; decide
  rw [Pattern.find?, Pattern.program_suggestion, Option.map_eq_some_iff]
  constructor
  · rintro ⟨marks, hmarks, rfl⟩
    obtain ⟨path, behind, hsuggests, rfl⟩ := (Pattern.search_eq_some_iff hequals).mp hmarks
    exact ⟨path, behind, hsuggests, rfl⟩
  · rintro ⟨path, behind, hsuggests, rfl⟩
    exact ⟨_, (Pattern.search_eq_some_iff hequals).mpr ⟨path, behind, hsuggests, rfl⟩, rfl⟩

/-! ### Clauses of phrases -/

variable (config : CriteriaConfig) {phrase : String}

theorem phraseClause_of_asks {segments rest : List Char} {c : Char} (h : AsksCompletion phrase segments c rest)
    (path : String) :
    Clause.phraseClause config (suggestion pathSet termSet) phrase path =
      completionClause (String.ofList segments) (String.ofList ((c :: rest).takeWhile (· != '\n'))) := by
  have hsuggests := suggests_iff.mpr ⟨c, rest, rfl, h⟩
  obtain ⟨hpath, hterm⟩ := hsuggests.group?
  rw [Clause.phraseClause, find?_suggestion_eq_some_iff.mpr ⟨segments, c :: rest, hsuggests, rfl⟩]
  simp only [hpath, hterm, Option.getD_some]
  rw [takeWhile_termSet]

theorem phraseClause_of_not_asks (h : ¬ ∃ segments c rest, AsksCompletion phrase segments c rest) (path : String) :
    Clause.phraseClause config (suggestion pathSet termSet) phrase path = matchClause config phrase path := by
  rw [Clause.phraseClause]
  cases hfind : (suggestion pathSet termSet).find? phrase with
  | none => rfl
  | some found =>
    obtain ⟨path, behind, hsuggests, -⟩ := find?_suggestion_eq_some_iff.mp hfind
    obtain ⟨c, rest, -, hasks⟩ := suggests_iff.mp hsuggests
    exact absurd ⟨path, c, rest, hasks⟩ h

/-- A clause for completions. -/
def IsCompletion (clause : Json) : Prop := ∃ body, clause = .object [("match_phrase_prefix", body)]

theorem isCompletion_completionClause (path term : String) : IsCompletion (completionClause path term) := ⟨_, rfl⟩

theorem not_isCompletion_matchClause (phrase path : String) : ¬ IsCompletion (matchClause config phrase path) := by
  rintro ⟨body, h⟩
  obtain ⟨hentry, -⟩ := List.cons.inj (Json.object.inj h)
  exact absurd (Prod.mk.inj hentry).1 (by decide)

/-! ### Fields of completions -/

/-- Names with what stands behind each of them. -/
def interleave : List String → List String → List String
  | [], _ => []
  | name :: names, [] => name :: interleave names []
  | name :: names, between :: others => name :: between :: interleave names others

theorem everyOther_interleave {names between : List String}
    (h : between.length + 1 = names.length ∨ between.length = names.length) :
    everyOther (interleave names between) = names := by
  induction names generalizing between with
  | nil => rfl
  | cons name names ih =>
    cases between with
    | nil =>
      obtain rfl : names = [] := by simpa using h
      rfl
    | cons other between =>
      rw [interleave, everyOther, ih (by simpa using h)]

theorem mem_interleave {text : String} {names between : List String} (h : text ∈ interleave names between) :
    text ∈ names ∨ text ∈ between := by
  induction names generalizing between with
  | nil => cases h
  | cons name names ih =>
    cases between with
    | nil =>
      obtain rfl | hrest := List.mem_cons.mp h
      · exact .inl List.mem_cons_self
      · exact (ih hrest).imp_left (List.mem_cons_of_mem name)
    | cons other between =>
      obtain rfl | hrest := List.mem_cons.mp h
      · exact .inl List.mem_cons_self
      · obtain rfl | hrest := List.mem_cons.mp hrest
        · exact .inr List.mem_cons_self
        · exact (ih hrest).imp (List.mem_cons_of_mem name) (List.mem_cons_of_mem other)

theorem completionField_interleave {names types : List String} (hne : names ≠ [])
    (hlength : types.length + 1 = names.length ∨ types.length = names.length)
    (hnames : ∀ name ∈ names, '.' ∉ name.toList) (htypes : ∀ type ∈ types, '.' ∉ type.toList) :
    completionField (Text.join "." (interleave names types)) = Text.join "." names ++ ".suggest" := by
  have hinterleaved : interleave names types ≠ [] := by
    intro hnil
    apply hne
    rw [← everyOther_interleave hlength, hnil, everyOther]
  have hdots : ∀ text ∈ interleave names types, '.' ∉ text.toList := by
    intro text htext
    obtain hname | htype := mem_interleave htext
    · exact hnames text hname
    · exact htypes text htype
  rw [completionField, Text.split_join (by rfl) hinterleaved hdots, everyOther_interleave hlength]

/-! ### Searches -/

/-- **What phrases become.** With the pattern of suggestions that stands where none is configured, the clause of the
first search criterion is one for completions exactly if its phrase asks for them. Such a clause has the field of the
path, and for its query what stands behind the equals sign in the same line. The clause of any other phrase has all of
the phrase for its query, whatever the settings of searches are. The field of a path is made of its names, without the
types that stand between them and possibly behind the last one. -/
theorem phrases_translate (config : CriteriaConfig) (hconfig : config.suggestPattern = suggestionPattern) :
    (∃ compiler, CriteriaCompiler.ofConfig config = .ok compiler ∧ compiler.config = config ∧
      ∀ phrase path others, ∃ clause,
        searchClause compiler.config compiler.pattern (.search phrase path :: others) = .ok clause ∧
        (IsCompletion clause ↔ ∃ segments c rest, AsksCompletion phrase segments c rest) ∧
        (∀ segments c rest, AsksCompletion phrase segments c rest →
          clause = .object [("match_phrase_prefix", .object [(completionField (String.ofList segments),
            .object [("query", .string (String.ofList ((c :: rest).takeWhile (· != '\n')))),
              ("max_expansions", .natural Clause.maxExpansions)])])]) ∧
        ((¬ ∃ segments c rest, AsksCompletion phrase segments c rest) → clause = matchClause config phrase path ∧
          ∃ field settings, clause = .object [("match", .object [(field, .object settings)])] ∧
            Assoc.get? "query" settings = some (.string phrase))) ∧
    ∀ names types : List String, names ≠ [] → (types.length + 1 = names.length ∨ types.length = names.length) →
      (∀ name ∈ names, '.' ∉ name.toList) → (∀ type ∈ types, ∀ c ∈ type.toList, Text.isWordChar c = true) →
      completionField (Text.join "." (interleave names types)) = Text.join "." names ++ ".suggest" := by
  refine ⟨⟨⟨config, suggestion pathSet termSet⟩, ?_, rfl, ?_⟩, ?_⟩
  · rw [CriteriaCompiler.ofConfig, hconfig, Pattern.parse_suggestionPattern]
    rfl
  · intro phrase path others
    refine ⟨Clause.phraseClause config (suggestion pathSet termSet) phrase path, rfl, ?_, ?_, ?_⟩
    · constructor
      · intro hcompletion
        by_contra hasks
        rw [phraseClause_of_not_asks config hasks] at hcompletion
        exact not_isCompletion_matchClause config phrase path hcompletion
      · rintro ⟨segments, c, rest, hasks⟩
        rw [phraseClause_of_asks config hasks]
        exact isCompletion_completionClause _ _
    · intro segments c rest hasks
      exact phraseClause_of_asks config hasks path
    · intro hasks
      rw [phraseClause_of_not_asks config hasks]
      exact ⟨rfl, _, _, rfl, by rw [Assoc.get?_insert, if_pos rfl]⟩
  · intro names types hne hlength hnames htypes
    apply completionField_interleave hne hlength hnames
    intro type htype hdot
    exact absurd (htypes type htype '.' hdot) (by decide)

/-- A phrase with a type between two names, whose term ends with its line, and one without a path. -/
theorem phrases_translate_author :
    ∃ compiler, CriteriaCompiler.ofConfig {} = .ok compiler ∧
      searchClause {} compiler.pattern [.search "suggest:author.person.name=Ur\nsula" ""] =
        .ok (.object [("match_phrase_prefix", .object [("author.name.suggest",
          .object [("query", .string "Ur"), ("max_expansions", .natural 15)])])]) ∧
      searchClause {} compiler.pattern [.search "suggest:=Ursula" " title "] =
        .ok (.object [("match", .object [("title",
          .object [("type", .string "phrase_prefix"), ("query", .string "suggest:=Ursula")])])]) := by
  obtain ⟨⟨compiler, hcompiler, hconfig, hclauses⟩, hfields⟩ := phrases_translate {} rfl
  rw [hconfig] at hclauses
  refine ⟨compiler, hcompiler, ?_, ?_⟩
  · have hasks : AsksCompletion "suggest:author.person.name=Ur\nsula" "author.person.name".toList 'U'
        "r\nsula".toList :=
      ⟨by decide +kernel, by decide +kernel, List.all_iff_forall_prop.mp (by decide +kernel), by decide⟩
    have hfield : completionField "author.person.name" = "author.name.suggest" := by
      have hnames := hfields ["author", "name"] ["person"] (by decide) (.inl rfl) (by decide +kernel)
        (List.forall_mem_singleton.mpr (List.all_eq_true.mp (by decide +kernel)))
      rwa [show Text.join "." (interleave ["author", "name"] ["person"]) = "author.person.name" by decide +kernel,
        show Text.join "." ["author", "name"] ++ ".suggest" = "author.name.suggest" by decide +kernel] at hnames
    obtain ⟨clause, hclause, -, hcompletion, -⟩ := hclauses "suggest:author.person.name=Ur\nsula" "" []
    rw [hclause, hcompletion _ _ _ hasks, String.ofList_toList, hfield]
    decide +kernel
  · have hasks : ¬ ∃ segments c rest, AsksCompletion "suggest:=Ursula" segments c rest := by
      rintro ⟨segments, c, rest, hphrase, hpath, hall, -⟩
      obtain ⟨d, segments, rfl⟩ := List.exists_cons_of_ne_nil hpath
      have hsplit : "suggest:=Ursula".toList = "suggest:".toList ++ '=' :: "Ursula".toList := by decide +kernel
      rw [hsplit, List.append_assoc] at hphrase
      obtain ⟨rfl, -⟩ := List.cons.inj (List.append_cancel_left hphrase)
      exact absurd (hall '=' List.mem_cons_self) (by decide)
    obtain ⟨clause, hclause, -, -, hmatch⟩ := hclauses "suggest:=Ursula" " title " []
    rw [hclause, (hmatch hasks).1]
    decide +kernel

end SearchStore
