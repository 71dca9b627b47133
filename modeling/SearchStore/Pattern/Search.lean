import SearchStore.Pattern.Program
import Std.Data.HashSet

/-!
# Searching text for a pattern

A program is run on a text by threads that advance together, one character at a time, in the order of
preference. At one place no instruction is entered twice: the first thread there is the preferred one. A
thread that accepts ends the threads behind it, and the last one that accepts is the match. As long as
nothing has matched, a new thread starts at each place behind all others, so that the leftmost match is
found.
-/

namespace SearchStore.Pattern

/-- A place in a text: how many characters lie in front of it, and its two neighbours. -/
structure Place where
  offset : Nat
  previous : Option Char
  next : Option Char
deriving DecidableEq, Repr

/-- Whether a character belongs to a word, in any script or of ASCII characters. -/
def isWordOf (ascii : Bool) (c : Char) : Bool :=
  if ascii then c.isAlphanum || c == '_' else Text.isWordChar c

/-- Whether a condition on words holds, given whether the neighbours of the place belong to words. -/
def WordEdge.holds (before after : Bool) : WordEdge → Bool
  | .boundary => before != after
  | .noBoundary => before == after
  | .wordStart => !before && after
  | .wordEnd => before && !after
  | .noWordBefore => !before
  | .noWordAfter => !after

/-- Whether a condition holds at a place. -/
def Look.holds (place : Place) : Look → Bool
  | .textStart => place.previous.isNone
  | .textEnd => place.next.isNone
  | .lineStart crlf =>
    place.previous.isNone || place.previous == some '\n'
      || (crlf && place.previous == some '\r' && place.next != some '\n')
  | .lineEnd crlf =>
    place.next.isNone
      || (place.next == some '\n' && !(crlf && place.previous == some '\r'))
      || (crlf && place.next == some '\r')
  | .word edge ascii => edge.holds (place.previous.any (isWordOf ascii)) (place.next.any (isWordOf ascii))

/-- The start or the end of a group, and where it was noted. -/
structure Mark where
  group : Nat
  ends : Bool
  offset : Nat
deriving DecidableEq, Repr

/-- A run of a program: the instruction to be done next, and the marks so far, the latest first. -/
structure Thread where
  position : Nat
  marks : List Mark
deriving DecidableEq, Repr

/-- The ways on from an instruction that takes no character. -/
def Instruction.ways (place : Place) (marks : List Mark) : Instruction → List Thread
  | .check condition next => if condition.holds place then [⟨next, marks⟩] else []
  | .mark index ends next => [⟨next, ⟨index, ends, place.offset⟩ :: marks⟩]
  | .fork first second => [⟨first, marks⟩, ⟨second, marks⟩]
  | .take _ _ => []
  | .accept => []

/-- Whether a thread waits at the instruction: for a character, or because the pattern ends. -/
def Instruction.waits : Instruction → Bool
  | .take _ _ => true
  | .accept => true
  | _ => false

namespace Program

/-- The threads that wait at a place, reached from `pending`, the preferred one first, where no
instruction is entered twice. `entered` are the instructions that were entered before, and `waiting` the
threads found so far, last first. Each step enters an instruction or drops a thread, which bounds the
fuel. -/
def settleFrom (program : Program) (place : Place) :
    (fuel : Nat) → (pending : List Thread) → (entered : Std.HashSet Nat) → (waiting : List Thread) →
      List Thread
  | 0, _, _, waiting => waiting.reverse
  | _, [], _, waiting => waiting.reverse
  | fuel + 1, thread :: pending, entered, waiting =>
    if entered.contains thread.position then settleFrom program place fuel pending entered waiting
    else
      let entered := entered.insert thread.position
      match program.code[thread.position]? with
      | none => settleFrom program place fuel pending entered waiting
      | some instruction =>
        settleFrom program place fuel (instruction.ways place thread.marks ++ pending) entered
          (if instruction.waits then thread :: waiting else waiting)

/-- The threads that wait at a place, reached from others. -/
def settle (program : Program) (place : Place) (pending : List Thread) : List Thread :=
  settleFrom program place (2 * program.code.size + pending.length + 1) pending ∅ []

/-- The thread behind a character, if the instruction takes it. -/
def stepped? (program : Program) (c : Char) (thread : Thread) : Option Thread :=
  match program.code[thread.position]? with
  | some (.take set next) => if set.holds c then some { thread with position := next } else none
  | _ => none

/-- Whether the thread is at the end of the pattern. -/
def accepts (program : Program) (thread : Thread) : Bool :=
  program.code[thread.position]? == some .accept

/-- The marks of the match in the rest of a text, given the threads that reached the place, and the marks
of the last thread that accepted. -/
def searchFrom (program : Program) (offset : Nat) (previous : Option Char) (pending : List Thread)
    (best : Option (List Mark)) : (rest : List Char) → Option (List Mark)
  | [] =>
    let waiting := program.settle ⟨offset, previous, none⟩ (withStart best)
    (accepted waiting).or best
  | c :: rest =>
    let waiting := program.settle ⟨offset, previous, some c⟩ (withStart best)
    let best := (accepted waiting).or best
    let running := (waiting.takeWhile (!program.accepts ·)).filterMap (program.stepped? c)
    if running.isEmpty && best.isSome then best
    else searchFrom program (offset + 1) (some c) running best rest
where
  /-- The threads with a new one behind them, as long as nothing has matched. -/
  withStart (best : Option (List Mark)) : List Thread :=
    if best.isNone then pending ++ [⟨program.entry, []⟩] else pending
  /-- The marks of the first thread that accepts. -/
  accepted (waiting : List Thread) : Option (List Mark) :=
    (waiting.find? program.accepts).map (·.marks)

/-- The marks of the leftmost match in a text. -/
def search (program : Program) (text : List Char) : Option (List Mark) :=
  program.searchFrom 0 none [] none text

end Program

/-- What a pattern matched in a text. -/
structure Match where
  text : List Char
  marks : List Mark
deriving DecidableEq, Repr

/-- Where a group started, or ended, the last time. -/
def Match.bound? (m : Match) (index : Nat) (ends : Bool) : Option Nat :=
  (m.marks.find? fun mark => mark.group == index && mark.ends == ends).map (·.offset)

/-- The text of a group, none if the group took no part. -/
def Match.group? (m : Match) (index : Nat) : Option String := do
  let start ← m.bound? index false
  let stop ← m.bound? index true
  some (String.ofList ((m.text.drop start).take (stop - start)))

/-- The leftmost match in a text. -/
def find? (pattern : Pattern) (text : String) : Option Match :=
  (pattern.program.search text.toList).map fun marks => ⟨text.toList, marks⟩

end SearchStore.Pattern
