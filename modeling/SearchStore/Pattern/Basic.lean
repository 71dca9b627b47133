import SearchStore.Text.CharSet

/-!
# Patterns

Regular expressions over text, with groups. A pattern is built by the functions `ofSet`, `repeated`,
`concat` and `alternatives`, which bring it into a simple form: texts that follow each other are one
text, sequences and alternatives are not nested in themselves, and alternatives that start alike share
their start. What a pattern matches is laid down by its program (`SearchStore.Pattern.Program`).
-/

namespace SearchStore

namespace Pattern

/-- A condition on a place by the words around it. -/
inductive WordEdge where
  /-- A word starts or ends at the place. -/
  | boundary
  /-- No word starts or ends at the place. -/
  | noBoundary
  | wordStart
  | wordEnd
  /-- The character in front belongs to no word. -/
  | noWordBefore
  /-- The character behind belongs to no word. -/
  | noWordAfter
deriving DecidableEq, Repr

/-- A condition on a place in a text. -/
inductive Look where
  | textStart
  | textEnd
  /-- The start of a line, where `crlf` also lets a carriage return end lines. -/
  | lineStart (crlf : Bool)
  /-- The end of a line, where `crlf` also lets a carriage return end lines. -/
  | lineEnd (crlf : Bool)
  /-- A condition on the words at the place, which `ascii` limits to words of ASCII characters. -/
  | word (edge : WordEdge) (ascii : Bool)
deriving DecidableEq, Repr

end Pattern

open Pattern in
/-- A pattern. -/
inductive Pattern where
  /-- The empty text. -/
  | empty
  /-- These characters, of which there is at least one. -/
  | text (chars : List Char)
  /-- One character of a set. -/
  | char (set : CharSet)
  | look (condition : Look)
  /-- `least` to `most` times the body, without a bound if `most` is none. -/
  | repetition (least : Nat) (most : Option Nat) (greedy : Bool) (body : Pattern)
  /-- A numbered group, which records what its body matched. -/
  | group (index : Nat) (body : Pattern)
  /-- A sequence; its first part is no sequence itself. -/
  | seq (first rest : Pattern)
  /-- Alternatives, the preferred one first, which is none of alternatives itself. -/
  | alt (first rest : Pattern)
deriving DecidableEq, Repr

namespace Pattern

/-- The pattern that matches nothing. -/
def never : Pattern := .char .empty

/-! ### Lengths -/

/-- The length of the shortest text that can match; none if the pattern has a part that cannot match. -/
def minLength : Pattern → Option Nat
  | .empty => some 0
  | .text chars => some chars.length
  | .char set => if set = .empty then none else some 1
  | .look _ => some 0
  | .repetition least _ _ body => body.minLength.map (least * ·)
  | .group _ body => body.minLength
  | .seq first rest => do some ((← first.minLength) + (← rest.minLength))
  | .alt first rest => do some (min (← first.minLength) (← rest.minLength))

/-- The length of the longest text that can match; none without a bound, or if the pattern has a part
that cannot match. -/
def maxLength : Pattern → Option Nat
  | .empty => some 0
  | .text chars => some chars.length
  | .char set => if set = .empty then none else some 1
  | .look _ => some 0
  | .repetition _ most _ body => do some ((← most) * (← body.maxLength))
  | .group _ body => body.maxLength
  | .seq first rest => do some ((← first.maxLength) + (← rest.maxLength))
  | .alt first rest => do some (max (← first.maxLength) (← rest.maxLength))

/-- The sum of numbers. -/
def total (ns : List Nat) : Nat := ns.foldr (· + ·) 0

/-- How many parts the pattern is made of. -/
def size : Pattern → Nat
  | .repetition _ _ _ body => body.size + 1
  | .group _ body => body.size + 1
  | .seq first rest => first.size + rest.size + 1
  | .alt first rest => first.size + rest.size + 1
  | _ => 1

/-! ### Sets and repetitions -/

/-- One character of a set; a set of one is a text. -/
def ofSet (set : CharSet) : Pattern :=
  match set.single? with
  | some c => .text [c]
  | none => .char set

/-- A repetition. A body that matches the empty text alone is repeated at most once, and a repetition that
is none is left out. -/
def repeated (least : Nat) (most : Option Nat) (greedy : Bool) (body : Pattern) : Pattern :=
  let still := body.maxLength = some 0
  let least := if still then min least 1 else least
  let most := if still then some (min (most.getD 1) 1) else most
  match least, most with
  | 0, some 0 => .empty
  | 1, some 1 => body
  | least, most => .repetition least most greedy body

/-! ### Sequences -/

/-- The parts of a sequence, none of which is empty. -/
def parts : Pattern → List Pattern
  | .empty => []
  | .seq first rest => first :: rest.parts
  | p => [p]

/-- Parts where texts that follow each other are one text. -/
def joinTexts : List Pattern → List Pattern
  | [] => []
  | .text chars :: rest =>
    match joinTexts rest with
    | .text chars' :: rest => .text (chars ++ chars') :: rest
    | rest => .text chars :: rest
  | p :: rest => p :: joinTexts rest

/-- The sequence of given parts. -/
def ofParts : List Pattern → Pattern
  | [] => .empty
  | [p] => p
  | p :: rest => .seq p (ofParts rest)

/-- The sequence of patterns. -/
def concat (ps : List Pattern) : Pattern :=
  ofParts (joinTexts (ps.flatMap parts))

/-! ### Alternatives -/

/-- The alternatives of a pattern. -/
def choices : Pattern → List Pattern
  | .alt first rest => first :: rest.choices
  | p => [p]

/-- The choice between given alternatives. -/
def ofChoices : List Pattern → Pattern
  | [] => never
  | [p] => p
  | p :: rest => .alt p (ofChoices rest)

/-- The set of a text of one character. -/
def singleChar? : Pattern → Option CharSet
  | .text [c] => some (.single c)
  | _ => none

/-- The set of a pattern for one character of a set. -/
def charSet? : Pattern → Option CharSet
  | .char set => some set
  | _ => none

/-- The parts that two sequences start with. -/
def commonStart : List Pattern → List Pattern → List Pattern
  | p :: ps, q :: qs => if p = q then p :: commonStart ps qs else []
  | _, _ => []

/-- The parts that sequences start with; none if one of the patterns is no sequence. -/
def sharedStart : List Pattern → List Pattern
  | [] => []
  | [.seq first rest] => first :: rest.parts
  | .seq first rest :: others => commonStart (first :: rest.parts) (sharedStart others)
  | _ => []

/-- The choice between alternatives, whose shared start comes in front of it. `fuel` bounds how often that
is done. -/
def alternativesWithin : (fuel : Nat) → List Pattern → Pattern
  | 0, ps => ofChoices ps
  | fuel + 1, ps =>
    let ps := ps.flatMap choices
    if ps.length ≤ 1 then ofChoices ps
    else
      match ps.mapM singleChar? <|> ps.mapM charSet? with
      | some sets => ofSet (.unions sets)
      | none =>
        let start := sharedStart ps
        if start.isEmpty then ofChoices ps
        else
          let ends := ps.map fun p => ofParts (p.parts.drop start.length)
          concat (start ++ [alternativesWithin fuel ends])

/-- The choice between alternatives, the preferred one first. Every shared start is longer than nothing, so
that the size of the alternatives bounds how often one is found. -/
def alternatives (ps : List Pattern) : Pattern :=
  alternativesWithin (total (ps.map size) + 1) ps

end Pattern

end SearchStore
