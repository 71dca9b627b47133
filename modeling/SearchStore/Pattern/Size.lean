import SearchStore.Pattern.Basic
import SearchStore.Text.Utf8
import Std.Data.HashSet

/-!
# The size of patterns

A pattern is refused if it asks for too much memory. What counts is the larger one of two automata over the
bytes of UTF-8, one that reads forwards and notes groups, and one that reads backwards. The sizes are computed
from the pattern, without building the automata: a state takes 32 bytes, and so many more for each way on.

The automaton of a set of characters shares what its encodings have in common, which takes some time to find.
As long as a rough bound on the size (`Pattern.roughSize`) is small enough, that is left out.
-/

namespace SearchStore.Pattern

/-- The largest size of a pattern, in bytes. -/
def sizeLimit : Nat := 10 * 1024 * 1024

/-- The size of a state without several ways on. -/
def stateSize : Nat := 32

/-- The size of a state with ways on that take no byte. -/
def forkSize (ways : Nat) : Nat := stateSize + 4 * ways

/-- The size of a state with ways on that take a byte each. -/
def branchSize (ways : Nat) : Nat := stateSize + 8 * ways

/-! ### Sets of characters -/

open Text.Utf8 (ByteRanges byteRanges)

/-- The sequences of bytes that are left behind each first range, where the sequences are in ascending order. -/
def tails : List ByteRanges → List (List ByteRanges)
  | [] => []
  | [] :: rest => tails rest
  | (range :: tail) :: rest =>
    match rest, tails rest with
    | (range' :: _) :: _, same :: others =>
      if range = range' then (tail :: same) :: others else [tail] :: same :: others
    | _, others => [tail] :: others

/-- What is left to be read in each state of an automaton that takes one of the sequences. -/
def residuals : (length : Nat) → List ByteRanges → List (List ByteRanges)
  | 0, _ => []
  | length + 1, sequences =>
    if sequences.all List.isEmpty then []
    else sequences :: (tails sequences).flatMap (residuals length)

/-- The distinct members of a list. -/
def distinct {α : Type} [BEq α] [Hashable α] (items : List α) : List α :=
  (items.foldl (fun seen item => seen.insert item) (∅ : Std.HashSet α)).toList

/-- The size of a forward automaton for a set beyond ASCII, where states with the same rest are one. -/
def forwardSetSize (sequences : List ByteRanges) : Nat :=
  stateSize
    + total ((distinct (residuals 4 sequences)).map fun rest => branchSize (tails rest).length)

/-- The starts of a sequence. -/
def starts (sequence : ByteRanges) : List ByteRanges :=
  (List.range sequence.length).map fun n => sequence.take (n + 1)

/-- The size of a backward automaton for a set beyond ASCII, where states with the same start are one. -/
def backwardSetSize (sequences : List ByteRanges) : Nat :=
  stateSize + forkSize sequences.length
    + stateSize * (distinct (sequences.flatMap starts)).length

/-- A bound on the size of an automaton for a set beyond ASCII: a range within a block of 64 code points has
one encoding, and any range has at most 21. -/
def roughSetSize (ranges : List (Nat × Nat)) : Nat :=
  2 * stateSize
    + total (ranges.map fun (low, high) => if low / 64 = high / 64 then 160 else 21 * 160)

/-- The encodings of the members of a set, in ascending order. -/
def encodings (set : CharSet) : List ByteRanges :=
  set.ranges.flatMap fun (low, high) => byteRanges low high

/-- How the size of the automaton for a set beyond ASCII is found. -/
inductive Measure where
  | rough
  | forward
  | backward
deriving DecidableEq, Repr

/-- The size of the automaton for a set of characters. -/
def setSize (measure : Measure) (set : CharSet) : Nat :=
  if set.isAscii then stateSize + branchSize set.ranges.length
  else
    match measure with
    | .rough => roughSetSize set.ranges
    | .forward => forwardSetSize (encodings set)
    | .backward => backwardSetSize (encodings set)

/-! ### Texts -/

/-- The bytes of a text in UTF-8. -/
def utf8Bytes (chars : List Char) : List UInt8 := chars.flatMap String.utf8EncodeChar

/-- The size of a tree of texts, without the end that they share. -/
def treeSize : (height : Nat) → List (List UInt8) → Nat
  | 0, _ => 0
  | height + 1, texts =>
    let firsts := (texts.filterMap List.head?).eraseDups
    let node := (if firsts.length = 1 then stateSize else branchSize firsts.length) + forkSize 1
    if firsts.isEmpty then 0
    else
      node
        + total (firsts.map fun b =>
            treeSize height ((texts.filter fun text => text.head? = some b).map List.tail))

/-- The size of the automaton for a choice between texts. -/
def textsSize (measure : Measure) (texts : List (List Char)) : Nat :=
  let bytes := texts.map utf8Bytes
  let height := (bytes.map List.length).foldl max 0
  match measure with
  | .rough => stateSize + (total (bytes.map List.length) + 1) * (branchSize 1 + forkSize 1)
  | .forward => stateSize + treeSize height bytes
  | .backward => stateSize + treeSize height (bytes.map List.reverse)

/-! ### Patterns -/

/-- The size of the automaton for a repetition. -/
def repetitionSize (least : Nat) (most : Option Nat) (takes : Bool) (body : Nat) : Nat :=
  match least, most with
  | 0, some 1 => forkSize 2 + stateSize + body
  | least, some most =>
    if least = most then least * body
    else (if least = 0 then stateSize else least * body) + stateSize
      + (most - least) * (forkSize 2 + body)
  | 0, none => if takes then forkSize 2 + body else 2 * forkSize 2 + stateSize + body
  | least, none => least * body + forkSize 2

/-- The texts that a choice is made between, if all alternatives are texts. -/
def texts? (p : Pattern) : Option (List (List Char)) :=
  p.choices.mapM fun choice =>
    match choice with
    | .text chars => some chars
    | _ => none

/-- The sizes of all alternatives with the ways to them, and whether a pattern is the last of several
alternatives. -/
def bodySize (measure : Measure) : (more : Bool) → Pattern → Nat
  | _, .empty => stateSize
  | _, .text chars => stateSize * (utf8Bytes chars).length
  | _, .char set => setSize measure set
  | _, .look _ => stateSize
  | _, .repetition least most _ body =>
    repetitionSize least most (body.minLength.any (0 < ·)) (bodySize measure false body)
  | _, .group _ body =>
    (if measure = .backward then 0 else 2 * stateSize) + bodySize measure false body
  | _, .seq first rest => bodySize measure false first + bodySize measure false rest
  | more, .alt first rest =>
    match if more then none else texts? (.alt first rest) with
    | some texts => textsSize measure texts
    | none =>
      (if more then 4 else forkSize 2 + stateSize)
        + bodySize measure false first + bodySize measure true rest

/-- The size of the automaton for a pattern, with a loop in front that finds its start. -/
def sizeBy (measure : Measure) (p : Pattern) : Nat :=
  forkSize 2 + stateSize + branchSize 1
    + (if measure = .backward then 0 else 2 * stateSize) + bodySize measure false p + stateSize

/-- Whether a pattern is larger than allowed. -/
def isTooLarge (p : Pattern) : Bool :=
  sizeLimit < p.sizeBy .rough && (sizeLimit < p.sizeBy .forward || sizeLimit < p.sizeBy .backward)

end SearchStore.Pattern
