import Mathlib.Data.List.Perm.Subperm
import Mathlib.Data.List.TakeWhile
import SearchStore.Pattern.Search
import SearchStore.Proofs.Text.CharSet

/-!
# Runs of programs

At each place the threads are followed to where they wait. `Program.Settles` says so step by step, without fuel, and
`Program.settle_eq` that the fuel of a search is always enough for it. A search then goes on character by character,
given what settles at each place (`Program.searchFrom_cons`, `Program.searchFrom_nil`).

A program that starts with the condition that the text starts is anchored: behind the first place its new threads are
lost, so a search with no threads left has its result (`Program.searchFrom_lost`).
-/

namespace SearchStore.Pattern

theorem Instruction.length_ways_le (place : Place) (marks : List Mark) (instruction : Instruction) :
    (instruction.ways place marks).length ≤ 2 := by
  cases instruction with
  | check condition next =>
    rw [ways]
    split <;> simp
  | _ => simp [ways]

theorem Instruction.ways_of_waits {instruction : Instruction} (h : instruction.waits = true) (place : Place)
    (marks : List Mark) : instruction.ways place marks = [] := by
  cases instruction with
  | take set next => rfl
  | accept => rfl
  | check condition next => cases h
  | mark index ends next => cases h
  | fork first second => cases h

namespace Program

variable {program : Program} {place : Place} {entered : List Nat} {pending waiting : List Thread}

/-! ### Settling -/

/-- From the pending threads the waiting ones are reached, where no instruction is entered again. -/
inductive Settles (program : Program) (place : Place) :
    (entered : List Nat) → (pending waiting : List Thread) → Prop where
  /-- No thread is left. -/
  | done {entered : List Nat} : Settles program place entered [] []
  /-- The instruction has been entered by a preferred thread. -/
  | again {entered : List Nat} {thread : Thread} {pending waiting : List Thread} (h : thread.position ∈ entered)
      (rest : Settles program place entered pending waiting) :
      Settles program place entered (thread :: pending) waiting
  /-- The thread goes on. -/
  | pass {entered : List Nat} {thread : Thread} {pending waiting : List Thread} {instruction : Instruction}
      (h : thread.position ∉ entered) (hcode : program.code[thread.position]? = some instruction)
      (hwaits : instruction.waits = false)
      (rest : Settles program place (thread.position :: entered) (instruction.ways place thread.marks ++ pending)
        waiting) :
      Settles program place entered (thread :: pending) waiting
  /-- The thread waits. -/
  | wait {entered : List Nat} {thread : Thread} {pending waiting : List Thread} {instruction : Instruction}
      (h : thread.position ∉ entered) (hcode : program.code[thread.position]? = some instruction)
      (hwaits : instruction.waits = true)
      (rest : Settles program place (thread.position :: entered) pending waiting) :
      Settles program place entered (thread :: pending) (thread :: waiting)

/-- What has been entered: instructions of the program, each once. -/
structure Entered (program : Program) (entered : List Nat) : Prop where
  nodup : entered.Nodup
  lt_size : ∀ position ∈ entered, position < program.code.size

theorem Entered.nil : Entered program [] := ⟨List.nodup_nil, fun _ h => nomatch h⟩

theorem Entered.cons (h : Entered program entered) {position : Nat} {instruction : Instruction}
    (hnew : position ∉ entered) (hcode : program.code[position]? = some instruction) :
    Entered program (position :: entered) where
  nodup := List.nodup_cons.mpr ⟨hnew, h.nodup⟩
  lt_size := by
    obtain ⟨hlt, -⟩ := Array.getElem?_eq_some_iff.mp hcode
    exact List.forall_mem_cons.mpr ⟨hlt, h.lt_size⟩

theorem Entered.length_le (h : Entered program entered) : entered.length ≤ program.code.size := by
  have hrange : entered.Subperm (List.range program.code.size) :=
    h.nodup.subperm fun position hmem => List.mem_range.mpr (h.lt_size position hmem)
  simpa using hrange.length_le

theorem contains_insert_iff {set : Std.HashSet Nat} (h : ∀ position, set.contains position = true ↔ position ∈ entered)
    (new position : Nat) : (set.insert new).contains position = true ↔ position ∈ new :: entered := by
  rw [Std.HashSet.contains_insert, Bool.or_eq_true, h, beq_iff_eq, List.mem_cons, eq_comm]

/-- Each step drops a thread, or enters an instruction and leaves at most two threads more: the fuel is enough if it
exceeds the threads and twice the instructions that are left. -/
theorem settleFrom_eq (h : Settles program place entered pending waiting) {fuel : Nat} {set : Std.HashSet Nat}
    {found : List Thread} (hset : ∀ position, set.contains position = true ↔ position ∈ entered)
    (hentered : Entered program entered)
    (hfuel : 2 * program.code.size + pending.length < fuel + 2 * entered.length) :
    program.settleFrom place fuel pending set found = found.reverse ++ waiting := by
  have hsize := hentered.length_le
  -- Without fuel all instructions would have been entered and no thread would be left.
  induction h generalizing fuel set found with
  | @done entered =>
    cases fuel <;> simp [settleFrom]
  | @again entered thread pending waiting h rest ih =>
    rw [List.length_cons] at hfuel
    obtain _ | fuel := fuel
    · omega
    · rw [settleFrom, if_pos ((hset _).mpr h)]
      exact ih hset hentered (by omega) hsize
  | @pass entered thread pending waiting instruction h hcode hwaits rest ih =>
    have hways := instruction.length_ways_le place thread.marks
    have hnext := hentered.cons h hcode
    rw [List.length_cons] at hfuel
    obtain _ | fuel := fuel
    · omega
    · have hnew : ¬ set.contains thread.position = true := fun hmem => h ((hset _).mp hmem)
      simp only [settleFrom, hnew, hcode, hwaits, Bool.false_eq_true, if_false]
      apply ih (contains_insert_iff hset thread.position) hnext
      · simp only [List.length_cons, List.length_append]
        omega
      · exact hnext.length_le
  | @wait entered thread pending waiting instruction h hcode hwaits rest ih =>
    have hnext := hentered.cons h hcode
    rw [List.length_cons] at hfuel
    obtain _ | fuel := fuel
    · omega
    · have hnew : ¬ set.contains thread.position = true := fun hmem => h ((hset _).mp hmem)
      have hleft : 2 * program.code.size + pending.length < fuel + 2 * (thread.position :: entered).length := by
        rw [List.length_cons]
        omega
      simp only [settleFrom, hnew, hcode, hwaits, Instruction.ways_of_waits hwaits, List.nil_append, Bool.false_eq_true,
        if_false, if_true]
      rw [ih (contains_insert_iff hset thread.position) hnext hleft hnext.length_le, List.reverse_cons,
        List.append_assoc, List.singleton_append]

/-- The fuel of a search is enough for threads to settle. -/
theorem settle_eq (h : Settles program place [] pending waiting) : program.settle place pending = waiting := by
  have hset : ∀ position, (∅ : Std.HashSet Nat).contains position = true ↔ position ∈ ([] : List Nat) := by simp
  rw [settle, settleFrom_eq h hset .nil (by simp), List.reverse_nil, List.nil_append]

/-! ### Searching -/

open searchFrom (withStart accepted)

variable {offset : Nat} {previous : Option Char} {best : Option (List Mark)}

theorem searchFrom_nil (h : Settles program ⟨offset, previous, none⟩ [] (withStart program pending best) waiting) :
    program.searchFrom offset previous pending best [] = (accepted program waiting).or best := by
  rw [searchFrom, settle_eq h]

theorem searchFrom_cons {c : Char}
    (h : Settles program ⟨offset, previous, some c⟩ [] (withStart program pending best) waiting) (rest : List Char) :
    program.searchFrom offset previous pending best (c :: rest) =
      if ((waiting.takeWhile (!program.accepts ·)).filterMap (program.stepped? c)).isEmpty &&
          ((accepted program waiting).or best).isSome then (accepted program waiting).or best
      else program.searchFrom (offset + 1) (some c)
        ((waiting.takeWhile (!program.accepts ·)).filterMap (program.stepped? c)) ((accepted program waiting).or best)
        rest := by
  rw [searchFrom, settle_eq h]

/-! ### Anchored programs -/

/-- The program starts with the condition that the text does. -/
def IsAnchored (program : Program) : Prop := ∃ next, program.code[program.entry]? = some (.check .textStart next)

/-- Behind the first place a new thread is lost. -/
theorem Settles.concat_start (h : Settles program place entered pending waiting) (hanchored : program.IsAnchored)
    {p : Char} (hplace : place.previous = some p) :
    Settles program place entered (pending ++ [⟨program.entry, []⟩]) waiting := by
  induction h with
  | @done entered =>
    obtain ⟨next, hcode⟩ := hanchored
    by_cases hentered : program.entry ∈ entered
    · exact .again hentered .done
    · refine .pass hentered hcode rfl ?_
      simp only [Instruction.ways, Look.holds, hplace, Option.isNone_some, Bool.false_eq_true, if_false]
      exact .done
  | again h _ ih => exact .again h ih
  | pass h hcode hwaits _ ih =>
    rw [List.append_assoc] at ih
    exact .pass h hcode hwaits ih
  | wait h hcode hwaits _ ih => exact .wait h hcode hwaits ih

theorem Settles.withStart (h : Settles program place [] pending waiting) (hanchored : program.IsAnchored) {p : Char}
    (hplace : place.previous = some p) (best : Option (List Mark)) :
    Settles program place [] (withStart program pending best) waiting := by
  rw [searchFrom.withStart]
  split
  · exact h.concat_start hanchored hplace
  · exact h

/-- Without threads an anchored program finds nothing more. -/
theorem searchFrom_lost (hanchored : program.IsAnchored) (p : Char) (text : List Char) :
    program.searchFrom offset (some p) [] best text = best := by
  induction text generalizing offset p with
  | nil => rw [searchFrom_nil (Settles.done.withStart hanchored rfl best)]; rfl
  | cons c rest ih =>
    rw [searchFrom_cons (Settles.done.withStart hanchored rfl best)]
    split
    · rfl
    · exact ih c

/-! ### Single threads -/

theorem settles_take {position next : Nat} {set : CharSet} (h : program.code[position]? = some (.take set next))
    (marks : List Mark) : Settles program place [] [⟨position, marks⟩] [⟨position, marks⟩] :=
  .wait List.not_mem_nil h rfl .done

theorem settles_mark {position next : Nat} {group : Nat} {ends : Bool} {instruction : Instruction}
    (hmark : program.code[position]? = some (.mark group ends next)) (hnext : program.code[next]? = some instruction)
    (hwaits : instruction.waits = true) (hne : next ≠ position) (marks : List Mark) :
    Settles program place [] [⟨position, marks⟩] [⟨next, ⟨group, ends, place.offset⟩ :: marks⟩] :=
  .pass List.not_mem_nil hmark rfl (.wait (by simpa using hne) hnext hwaits .done)

/-- At the fork of a loop a thread waits for one more round, and another one notes the end of the group. -/
theorem settles_loop {fork inner out next : Nat} {group : Nat} {ends : Bool} {instruction body : Instruction}
    (hfork : program.code[fork]? = some (.fork inner out)) (hinner : program.code[inner]? = some body)
    (hbody : body.waits = true) (hout : program.code[out]? = some (.mark group ends next))
    (hnext : program.code[next]? = some instruction) (hwaits : instruction.waits = true)
    (hnodup : [next, out, inner, fork].Nodup) (marks : List Mark) :
    Settles program place [] [⟨fork, marks⟩] [⟨inner, marks⟩, ⟨next, ⟨group, ends, place.offset⟩ :: marks⟩] := by
  obtain ⟨hnext', hrest⟩ := List.nodup_cons.mp hnodup
  obtain ⟨hout', hrest⟩ := List.nodup_cons.mp hrest
  obtain ⟨hinner', -⟩ := List.nodup_cons.mp hrest
  exact .pass List.not_mem_nil hfork rfl
    (.wait hinner' hinner hbody (.pass hout' hout rfl (.wait hnext' hnext hwaits .done)))

/-- The search where no thread accepts and nothing has matched: those go on that take the next character. -/
theorem searchFrom_of_running
    (h : ∀ following, Settles program ⟨offset, previous, following⟩ [] (withStart program pending none) waiting)
    (hrunning : ∀ thread ∈ waiting, program.accepts thread = false) (text : List Char) :
    program.searchFrom offset previous pending none text =
      match text with
      | [] => none
      | c :: rest => program.searchFrom (offset + 1) (some c) (waiting.filterMap (program.stepped? c)) none rest := by
  have haccepted : accepted program waiting = none := by
    simpa [accepted, List.find?_eq_none] using hrunning
  have htake : waiting.takeWhile (!program.accepts ·) = waiting :=
    List.takeWhile_eq_self_iff.mpr fun thread hmem => by simp [hrunning thread hmem]
  cases text with
  | nil => rw [searchFrom_nil (h none), haccepted, Option.none_or]
  | cons c rest =>
    rw [searchFrom_cons (h (some c)), haccepted, htake]
    simp

theorem searchFrom_of_take (hanchored : program.IsAnchored) {position next : Nat} {set : CharSet} {marks : List Mark}
    (hcode : program.code[position]? = some (.take set next))
    (h : ∀ following,
      Settles program ⟨offset, previous, following⟩ [] (withStart program pending none) [⟨position, marks⟩])
    (text : List Char) :
    program.searchFrom offset previous pending none text =
      match text with
      | [] => none
      | c :: rest =>
        if set.holds c then program.searchFrom (offset + 1) (some c) [⟨next, marks⟩] none rest else none := by
  have hrunning : ∀ thread ∈ [(⟨position, marks⟩ : Thread)], program.accepts thread = false := by
    simp [accepts, hcode]
  rw [searchFrom_of_running h hrunning]
  cases text with
  | nil => rfl
  | cons c rest =>
    by_cases hc : set.holds c = true
    · simp [stepped?, hcode, hc]
    · simp [stepped?, hcode, hc, searchFrom_lost hanchored]

theorem searchFrom_of_mark (hanchored : program.IsAnchored) {position middle next group : Nat} {ends : Bool}
    {set : CharSet} (hmark : program.code[position]? = some (.mark group ends middle))
    (hcode : program.code[middle]? = some (.take set next)) (hne : middle ≠ position) (marks : List Mark) (p : Char)
    (text : List Char) :
    program.searchFrom offset (some p) [⟨position, marks⟩] none text =
      match text with
      | [] => none
      | c :: rest =>
        if set.holds c then
          program.searchFrom (offset + 1) (some c) [⟨next, ⟨group, ends, offset⟩ :: marks⟩] none rest
        else none := by
  have hsettles : ∀ following, Settles program ⟨offset, some p, following⟩ [] [⟨position, marks⟩]
      [⟨middle, ⟨group, ends, offset⟩ :: marks⟩] := fun following => settles_mark hmark hcode rfl hne marks
  exact searchFrom_of_take hanchored hcode (fun following => (hsettles following).withStart hanchored rfl none) text

/-! ### Fixed texts -/

/-- From one instruction to another the program takes just these characters. -/
inductive Spells (program : Program) : (position : Nat) → (chars : List Char) → (next : Nat) → Prop where
  | last {position next : Nat} {c : Char} (hcode : program.code[position]? = some (.take (.single c) next)) :
      Spells program position [c] next
  | more {position middle next : Nat} {c : Char} {chars : List Char}
      (hcode : program.code[position]? = some (.take (.single c) middle)) (rest : Spells program middle chars next) :
      Spells program position (c :: chars) next

theorem Spells.settles {position next : Nat} {chars : List Char} (h : Spells program position chars next)
    (marks : List Mark) : Settles program place [] [⟨position, marks⟩] [⟨position, marks⟩] := by
  cases h with
  | last hcode => exact settles_take hcode marks
  | more hcode _ => exact settles_take hcode marks

/-- A fixed text is taken as a whole, and nothing is found in a text that does not start with it. -/
theorem searchFrom_of_spells (hanchored : program.IsAnchored) {position next : Nat} {chars : List Char}
    (hspells : Spells program position chars next) {marks : List Mark}
    (h : ∀ following,
      Settles program ⟨offset, previous, following⟩ [] (withStart program pending none) [⟨position, marks⟩])
    (text : List Char) :
    (∃ c rest, text = chars ++ rest ∧ program.searchFrom offset previous pending none text =
        program.searchFrom (offset + chars.length) (some c) [⟨next, marks⟩] none rest) ∨
      ¬ chars <+: text ∧ program.searchFrom offset previous pending none text = none := by
  induction hspells generalizing offset previous pending text with
  | @last position next c hcode =>
    rw [searchFrom_of_take hanchored hcode h]
    obtain _ | ⟨d, rest⟩ := text
    · exact .inr ⟨by simp, rfl⟩
    · by_cases hd : d = c
      · exact .inl ⟨d, rest, by rw [hd, List.singleton_append], by simp [CharSet.holds_single, hd]⟩
      · exact .inr ⟨fun hstarts => hd (List.cons_prefix_cons.mp hstarts).1.symm, by simp [CharSet.holds_single, hd]⟩
  | @more position middle next c chars hcode hspells ih =>
    -- Behind the first character the thread stands alone, as it did in front of it.
    rw [searchFrom_of_take hanchored hcode h]
    obtain _ | ⟨d, rest⟩ := text
    · exact .inr ⟨by simp, rfl⟩
    · by_cases hd : d = c
      · have hnext : ∀ following, Settles program ⟨offset + 1, some d, following⟩ []
            (withStart program [⟨middle, marks⟩] none) [⟨middle, marks⟩] :=
          fun following => (hspells.settles marks).withStart hanchored rfl none
        simp only [CharSet.holds_single, hd, beq_self_eq_true, if_true] at hnext ⊢
        obtain ⟨e, rest', rfl, hsearch⟩ | ⟨hstarts, hsearch⟩ := ih hnext rest
        · exact .inl ⟨e, rest', rfl, by rw [hsearch, List.length_cons, Nat.add_right_comm, Nat.add_assoc]⟩
        · exact .inr ⟨fun h => hstarts (List.cons_prefix_cons.mp h).2, hsearch⟩
      · exact .inr ⟨fun hstarts => hd (List.cons_prefix_cons.mp hstarts).1.symm, by simp [CharSet.holds_single, hd]⟩

end Program

end SearchStore.Pattern
