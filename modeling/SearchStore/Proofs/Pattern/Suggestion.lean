import SearchStore.Config.Query
import SearchStore.Pattern.Parser
import SearchStore.Proofs.Pattern.Run

/-!
# The pattern of suggestions

The pattern is read as `suggestion` with its two sets of characters, those of paths and those of terms
(`parse_suggestionPattern`). Its program has one way to go on at each place but in the two loops: in a path, from which
an equals sign leads on (`searchFrom_path`), and in a term, which can end anywhere (`searchFrom_term`). So a search
finds the one way to cut a text into a path and a term, if there is one (`search_eq_some_iff`), and the groups of the
match are these two (`Suggests.group?`).
-/

namespace SearchStore.Pattern

open Program (Settles Spells)

/-! ### The pattern and its program -/

/-- The word that suggestions start with. -/
def suggestWord : List Char := ['s', 'u', 'g', 'g', 'e', 's', 't', ':']

/-- A path behind the word, and a term behind an equals sign. -/
def suggestion (inPath inTerm : CharSet) : Pattern :=
  .seq (.look .textStart)
    (.seq (.text suggestWord)
      (.seq (.group 1 (.repetition 1 none true (.char inPath)))
        (.seq (.text ['=']) (.group 2 (.repetition 1 none true (.char inTerm))))))

/-- The characters of paths. -/
def pathSet : CharSet := (CharSet.empty.union (.single '.')).union .word

/-- The characters of terms. -/
def termSet : CharSet := (CharSet.single '\n').complement

theorem parse_suggestionPattern : parse suggestionPattern = .ok (suggestion pathSet termSet) := by
  have hread : (parse suggestionPattern).toOption = some (suggestion pathSet termSet) := by decide +kernel
  cases hparse : parse suggestionPattern with
  | error fault => rw [hparse] at hread; cases hread
  | ok pattern =>
    rw [hparse] at hread
    rw [Option.some.inj hread]

theorem holds_pathSet (c : Char) : pathSet.holds c = (c == '.' || Text.isWordChar c) := by
  have hdot := CharSet.isAscending_single '.'
  rw [pathSet, CharSet.holds_union (CharSet.isAscending_union CharSet.isAscending_empty hdot) CharSet.isAscending_word,
    CharSet.holds_union CharSet.isAscending_empty hdot, CharSet.holds_single, CharSet.holds_word]
  rfl

theorem holds_termSet (c : Char) : termSet.holds c = (c != '\n') := by
  rw [termSet, CharSet.holds_complement (CharSet.isAscending_single '\n'), CharSet.holds_single]
  rfl

variable (inPath inTerm : CharSet)

/-- The program of the pattern. -/
def suggestionProgram : Program where
  code :=
    #[.accept, .mark 2 true 0, .fork 3 1, .take inTerm 2, .mark 2 false 3, .take (.single '=') 4, .mark 1 true 5,
      .fork 8 6, .take inPath 7, .mark 1 false 8, .take (.single ':') 9, .take (.single 't') 10,
      .take (.single 's') 11, .take (.single 'e') 12, .take (.single 'g') 13, .take (.single 'g') 14,
      .take (.single 'u') 15, .take (.single 's') 16, .check .textStart 17]
  entry := 18

theorem program_suggestion : (suggestion inPath inTerm).program = suggestionProgram inPath inTerm := by
  simp [program, block, suggestion, suggestWord, suggestionProgram, Block.andThen, Block.one, Block.skip,
    repetitionBlock, Block.times, Block.someTimes, Block.loop, Block.forkTo]

theorem isAnchored_suggestionProgram : (suggestionProgram inPath inTerm).IsAnchored := ⟨17, rfl⟩

theorem spells_suggestWord : Spells (suggestionProgram inPath inTerm) 17 suggestWord 9 :=
  .more rfl (.more rfl (.more rfl (.more rfl (.more rfl (.more rfl (.more rfl (.last rfl)))))))

/-! ### Searching -/

variable {inPath inTerm}

theorem settles_start {place : Place} (h : place.previous = none) :
    Settles (suggestionProgram inPath inTerm) place [] [⟨18, []⟩] [⟨17, []⟩] := by
  have hcode : (suggestionProgram inPath inTerm).code[18]? = some (.check .textStart 17) := rfl
  refine .pass List.not_mem_nil hcode rfl ?_
  simp only [Instruction.ways, Look.holds, h, Option.isNone_none, if_true]
  exact .wait (by simp) rfl rfl .done

variable {offset : Nat} {marks : List Mark}

theorem searchFrom_path_step (hequals : inPath.holds '=' = false) (p : Char) (text : List Char) :
    (suggestionProgram inPath inTerm).searchFrom offset (some p) [⟨7, marks⟩] none text =
      match text with
      | [] => none
      | c :: rest =>
        if inPath.holds c then (suggestionProgram inPath inTerm).searchFrom (offset + 1) (some c) [⟨7, marks⟩] none rest
        else if c = '=' then
          (suggestionProgram inPath inTerm).searchFrom (offset + 1) (some '=') [⟨4, ⟨1, true, offset⟩ :: marks⟩] none
            rest
        else none := by
  have hanchored := isAnchored_suggestionProgram inPath inTerm
  have hsettles : ∀ following, Settles (suggestionProgram inPath inTerm) ⟨offset, some p, following⟩ [] [⟨7, marks⟩]
      [⟨8, marks⟩, ⟨5, ⟨1, true, offset⟩ :: marks⟩] :=
    fun following => Program.settles_loop rfl rfl rfl rfl rfl rfl (by decide) marks
  have hpath : (suggestionProgram inPath inTerm).code[8]? = some (.take inPath 7) := rfl
  have hout : (suggestionProgram inPath inTerm).code[5]? = some (.take (.single '=') 4) := rfl
  rw [Program.searchFrom_of_running (fun following => (hsettles following).withStart hanchored rfl none)
    (by simp [Program.accepts, hpath, hout])]
  obtain _ | ⟨c, rest⟩ := text
  · rfl
  · by_cases hc : inPath.holds c = true
    · have hne : c ≠ '=' := by
        rintro rfl
        exact absurd hc (by simp [hequals])
      simp [Program.stepped?, hpath, hout, hc, CharSet.holds_single, hne]
    · by_cases heq : c = '='
      · simp [Program.stepped?, hpath, hout, CharSet.holds_single, heq, hequals]
      · simp [Program.stepped?, hpath, hout, hc, CharSet.holds_single, heq, Program.searchFrom_lost hanchored]

/-- A path ends at an equals sign, and at anything else nothing is found. -/
theorem searchFrom_path (hequals : inPath.holds '=' = false) (p : Char) (text : List Char) :
    (suggestionProgram inPath inTerm).searchFrom offset (some p) [⟨7, marks⟩] none text =
      match text.dropWhile inPath.holds with
      | '=' :: rest =>
        (suggestionProgram inPath inTerm).searchFrom (offset + (text.takeWhile inPath.holds).length + 1) (some '=')
          [⟨4, ⟨1, true, offset + (text.takeWhile inPath.holds).length⟩ :: marks⟩] none rest
      | _ => none := by
  induction text generalizing offset p with
  | nil => exact searchFrom_path_step hequals p []
  | cons c text ih =>
    rw [searchFrom_path_step hequals]
    by_cases hc : inPath.holds c = true
    · simp only [hc, if_true, ih, List.dropWhile_cons_of_pos, List.takeWhile_cons_of_pos, List.length_cons]
      simp only [Nat.add_assoc, Nat.add_comm 1]
    · simp only [hc, if_false, List.dropWhile_cons_of_neg, List.takeWhile_cons_of_neg, List.length_nil,
        Nat.add_zero, not_false_eq_true, Bool.false_eq_true]
      by_cases heq : c = '='
      · rw [heq]
        rfl
      · simp [heq]

theorem searchFrom_term_step (p : Char) (best : Option (List Mark)) (text : List Char) :
    (suggestionProgram inPath inTerm).searchFrom offset (some p) [⟨2, marks⟩] best text =
      match text with
      | [] => some (⟨2, true, offset⟩ :: marks)
      | c :: rest =>
        if inTerm.holds c then
          (suggestionProgram inPath inTerm).searchFrom (offset + 1) (some c) [⟨2, marks⟩]
            (some (⟨2, true, offset⟩ :: marks)) rest
        else some (⟨2, true, offset⟩ :: marks) := by
  have hanchored := isAnchored_suggestionProgram inPath inTerm
  have hsettles : ∀ following, Settles (suggestionProgram inPath inTerm) ⟨offset, some p, following⟩ [] [⟨2, marks⟩]
      [⟨3, marks⟩, ⟨0, ⟨2, true, offset⟩ :: marks⟩] :=
    fun following => Program.settles_loop rfl rfl rfl rfl rfl rfl (by decide) marks
  have hterm : (suggestionProgram inPath inTerm).code[3]? = some (.take inTerm 2) := rfl
  have hend : (suggestionProgram inPath inTerm).code[0]? = some .accept := rfl
  obtain _ | ⟨c, rest⟩ := text
  · rw [Program.searchFrom_nil ((hsettles none).withStart hanchored rfl best)]
    simp [Program.searchFrom.accepted, Program.accepts, hterm, hend]
  · rw [Program.searchFrom_cons ((hsettles (some c)).withStart hanchored rfl best)]
    by_cases hc : inTerm.holds c = true
    · simp [Program.searchFrom.accepted, Program.accepts, Program.stepped?, hterm, hend, hc]
    · simp [Program.searchFrom.accepted, Program.accepts, Program.stepped?, hterm, hend, hc]

/-- A term takes as many characters as it can. -/
theorem searchFrom_term (p : Char) (best : Option (List Mark)) (text : List Char) :
    (suggestionProgram inPath inTerm).searchFrom offset (some p) [⟨2, marks⟩] best text =
      some (⟨2, true, offset + (text.takeWhile inTerm.holds).length⟩ :: marks) := by
  induction text generalizing offset p best with
  | nil => exact searchFrom_term_step p best []
  | cons c text ih =>
    rw [searchFrom_term_step]
    by_cases hc : inTerm.holds c = true
    · simp only [hc, if_true, ih, List.takeWhile_cons_of_pos, List.length_cons, Nat.add_assoc, Nat.add_comm 1]
    · simp [hc]

/-! ### Matches -/

/-- The text is the word, a path, an equals sign and what stands behind it, which starts with a term. -/
structure Suggests (inPath inTerm : CharSet) (text path behind : List Char) : Prop where
  text_eq : text = suggestWord ++ (path ++ '=' :: behind)
  path_ne_nil : path ≠ []
  inPath : ∀ c ∈ path, inPath.holds c = true
  term_ne_nil : behind.takeWhile inTerm.holds ≠ []

/-- The marks of a match with a path and a term. -/
def suggestionMarks (path term : List Char) : List Mark :=
  [⟨2, true, 9 + path.length + term.length⟩, ⟨2, false, 9 + path.length⟩, ⟨1, true, 8 + path.length⟩, ⟨1, false, 8⟩]

theorem searchFrom_termStart (path : List Char) (behind : List Char) :
    (suggestionProgram inPath inTerm).searchFrom (9 + path.length) (some '=')
        [⟨4, [⟨1, true, 8 + path.length⟩, ⟨1, false, 8⟩]⟩] none behind =
      if behind.takeWhile inTerm.holds = [] then none
      else some (suggestionMarks path (behind.takeWhile inTerm.holds)) := by
  have hanchored := isAnchored_suggestionProgram inPath inTerm
  have hmark : (suggestionProgram inPath inTerm).code[4]? = some (.mark 2 false 3) := rfl
  have hterm : (suggestionProgram inPath inTerm).code[3]? = some (.take inTerm 2) := rfl
  rw [Program.searchFrom_of_mark hanchored hmark hterm (by decide)]
  obtain _ | ⟨c, rest⟩ := behind
  · rfl
  · by_cases hc : inTerm.holds c = true
    · simp only [hc, if_true, searchFrom_term, List.takeWhile_cons_of_pos, List.cons_ne_nil, if_false, suggestionMarks,
        List.length_cons, Nat.add_assoc, Nat.add_comm 1]
    · simp [hc]

theorem searchFrom_pathStart (hequals : inPath.holds '=' = false) (p : Char) (text : List Char) :
    (suggestionProgram inPath inTerm).searchFrom 8 (some p) [⟨9, []⟩] none text =
      if text.takeWhile inPath.holds = [] then none
      else
        match text.dropWhile inPath.holds with
        | '=' :: behind =>
          if behind.takeWhile inTerm.holds = [] then none
          else some (suggestionMarks (text.takeWhile inPath.holds) (behind.takeWhile inTerm.holds))
        | _ => none := by
  have hanchored := isAnchored_suggestionProgram inPath inTerm
  have hmark : (suggestionProgram inPath inTerm).code[9]? = some (.mark 1 false 8) := rfl
  have hpath : (suggestionProgram inPath inTerm).code[8]? = some (.take inPath 7) := rfl
  rw [Program.searchFrom_of_mark hanchored hmark hpath (by decide)]
  obtain _ | ⟨c, rest⟩ := text
  · rfl
  · by_cases hc : inPath.holds c = true
    · have hoffset : 8 + 1 + (rest.takeWhile inPath.holds).length = 8 + (c :: rest.takeWhile inPath.holds).length := by
        rw [List.length_cons]
        omega
      have hbehind :
          8 + (c :: rest.takeWhile inPath.holds).length + 1 = 9 + (c :: rest.takeWhile inPath.holds).length := by
        omega
      simp only [hc, if_true, searchFrom_path hequals, hoffset, hbehind, searchFrom_termStart,
        List.takeWhile_cons_of_pos, List.dropWhile_cons_of_pos, List.cons_ne_nil, if_false]
    · simp [hc]

theorem searchFrom_pathStart_eq_some_iff (hequals : inPath.holds '=' = false) (p : Char) {text : List Char}
    {marks : List Mark} :
    (suggestionProgram inPath inTerm).searchFrom 8 (some p) [⟨9, []⟩] none text = some marks ↔
      ∃ path behind, Suggests inPath inTerm (suggestWord ++ text) path behind ∧
        marks = suggestionMarks path (behind.takeWhile inTerm.holds) := by
  rw [searchFrom_pathStart hequals]
  constructor
  · intro hmarks
    split at hmarks
    · cases hmarks
    · rename_i hpath
      split at hmarks
      · rename_i behind hbehind
        split at hmarks
        · cases hmarks
        · rename_i hterm
          have htext : text = text.takeWhile inPath.holds ++ '=' :: behind := by
            rw [← hbehind, List.takeWhile_append_dropWhile]
          exact ⟨text.takeWhile inPath.holds, behind,
            ⟨congrArg (suggestWord ++ ·) htext, hpath, fun c hc => List.mem_takeWhile_imp hc, hterm⟩,
            (Option.some.inj hmarks).symm⟩
      · cases hmarks
  · rintro ⟨path, behind, ⟨htext, hpath, hall, hterm⟩, rfl⟩
    obtain rfl := List.append_cancel_left htext
    obtain ⟨htake, hdrop⟩ := Text.takeWhile_dropWhile_stop hall hequals behind
    rw [htake, hdrop, if_neg hpath]
    simp [hterm]

/-- A search matches the texts of suggestions, each in one way. -/
theorem search_eq_some_iff (hequals : inPath.holds '=' = false) {text : List Char} {marks : List Mark} :
    (suggestionProgram inPath inTerm).search text = some marks ↔
      ∃ path behind, Suggests inPath inTerm text path behind ∧
        marks = suggestionMarks path (behind.takeWhile inTerm.holds) := by
  have hanchored := isAnchored_suggestionProgram inPath inTerm
  have hstart : ∀ following, Settles (suggestionProgram inPath inTerm) ⟨0, none, following⟩ []
      (Program.searchFrom.withStart (suggestionProgram inPath inTerm) [] none) [⟨17, []⟩] :=
    fun following => settles_start rfl
  obtain ⟨c, rest, rfl, hsearch⟩ | ⟨hstarts, hsearch⟩ :=
    Program.searchFrom_of_spells hanchored (spells_suggestWord inPath inTerm) hstart text
  · rw [Program.search, hsearch]
    exact searchFrom_pathStart_eq_some_iff hequals c
  · rw [Program.search, hsearch]
    constructor
    · intro hmarks
      cases hmarks
    · rintro ⟨path, behind, hsuggests, -⟩
      exact absurd ⟨path ++ '=' :: behind, hsuggests.text_eq.symm⟩ hstarts

/-! ### Groups -/

theorem Suggests.group? {text path behind : List Char} (h : Suggests inPath inTerm text path behind) :
    (Match.mk text (suggestionMarks path (behind.takeWhile inTerm.holds))).group? 1 = some (String.ofList path) ∧
      (Match.mk text (suggestionMarks path (behind.takeWhile inTerm.holds))).group? 2 =
        some (String.ofList (behind.takeWhile inTerm.holds)) := by
  obtain ⟨rfl, -, -, -⟩ := h
  have hword : suggestWord.length = 8 := rfl
  have hpath : (suggestWord ++ (path ++ '=' :: behind)).drop 8 = path ++ '=' :: behind := by
    rw [← hword, List.drop_left]
  have hbehind : (suggestWord ++ (path ++ '=' :: behind)).drop (9 + path.length) = behind := by
    have hlength : 9 + path.length = 8 + (path ++ ['=']).length := by
      rw [List.length_append, List.length_singleton]
      omega
    rw [hlength, ← List.drop_drop, hpath, List.append_cons path '=' behind, List.drop_left]
  have hterm := List.prefix_iff_eq_take.mp ( List.takeWhile_prefix (l := behind) inTerm.holds)
  constructor
  · simp [Match.group?, Match.bound?, suggestionMarks, hpath]
  · simp [Match.group?, Match.bound?, suggestionMarks, hbehind, ← hterm]

end SearchStore.Pattern
