import SearchStore.Pattern.Basic
import SearchStore.Pattern.Flags
import SearchStore.Text.Folding
import SearchStore.Text.Property.Name

/-!
# Escapes in the notation of patterns

What stands behind a backslash: a character, by its name, by its code point or for itself; a set, by its letter
or by a property; or a condition on the place.
-/

namespace SearchStore.Pattern

/-- What an escape stands for. -/
inductive Escape where
  | char (c : Char)
  | set (set : CharSet)
  | look (condition : Look)
deriving DecidableEq, Repr

/-! ### Sets under flags -/

/-- The set as the flags have it: with the other case of its members, if case does not matter. -/
def Flags.fold (flags : Flags) (set : CharSet) : CharSet :=
  if !flags.caseless then set else if flags.unicode then set.folded else set.foldedAscii

/-- The set, or its complement. Where the flag `u` is off, only ASCII characters may be taken in. -/
def Flags.negate (flags : Flags) (negated : Bool) (set : CharSet) : Except Fault CharSet :=
  if flags.unicode then .ok (if negated then set.complement else set)
  else if negated || !set.isAscii then .error .notAscii
  else .ok set

/-- The ASCII characters of a class with a name. -/
def asciiClass? : String → Option CharSet
  | "alnum" => some (.ofTable ["30-39 41-5A 61-7A"])
  | "alpha" => some (.ofTable ["41-5A 61-7A"])
  | "ascii" => some (.ofTable ["0-7F"])
  | "blank" => some (.ofTable ["9 20"])
  | "cntrl" => some (.ofTable ["0-1F 7F"])
  | "digit" => some (.ofTable ["30-39"])
  | "graph" => some (.ofTable ["21-7E"])
  | "lower" => some (.ofTable ["61-7A"])
  | "print" => some (.ofTable ["20-7E"])
  | "punct" => some (.ofTable ["21-2F 3A-40 5B-60 7B-7E"])
  | "space" => some (.ofTable ["9-D 20"])
  | "upper" => some (.ofTable ["41-5A"])
  | "word" => some (.ofTable ["30-39 41-5A 5F 61-7A"])
  | "xdigit" => some (.ofTable ["30-39 41-46 61-66"])
  | _ => none

/-- The set of a letter, of which a capital stands for the complement. -/
def letterSet? (flags : Flags) (c : Char) : Option (Except Fault CharSet) :=
  match c.toLower with
  | 'w' => some (of CharSet.word "word")
  | 'd' => some (of CharSet.digit "digit")
  | 's' => some (of CharSet.blank "space")
  | _ => none
where
  /-- The set, or its ASCII characters. -/
  of (set : CharSet) (name : String) : Except Fault CharSet :=
    flags.negate c.isUpper (if flags.unicode then set else (asciiClass? name).getD .empty)

/-! ### Code points -/

/-- The value of a hexadecimal digit. -/
def hexDigit? (c : Char) : Option Nat :=
  if c.isDigit then some (c.toNat - '0'.toNat)
  else if 'a' ≤ c && c ≤ 'f' then some (c.toNat - 'a'.toNat + 10)
  else if 'A' ≤ c && c ≤ 'F' then some (c.toNat - 'A'.toNat + 10)
  else none

/-- The character with a code point in hexadecimal. -/
def hexChar? (digits : List Char) : Option Char :=
  match digits.mapM hexDigit? with
  | none => none
  | some [] => none
  | some values =>
    let code := values.foldl (fun n d => n * 16 + d) 0
    if code.isValidChar then some (Char.ofNat code) else none

/-- A character by its code point: in braces, or with a fixed number of digits. Two digits outside of
Unicode stand for a byte, which has to be ASCII. -/
def readCodePoint (flags : Flags) (width : Nat) (cs : List Char) : Except Fault (Char × List Char) :=
  match skip flags cs with
  | '\x7b' :: rest =>
    match readBraced? flags rest with
    | some (digits, rest) =>
      match hexChar? digits with
      | some c => .ok (c, rest)
      | none => .error .invalidEscape
    | none => .error .invalidEscape
  | rest =>
    match take? flags width rest with
    | some (digits, rest) =>
      match hexChar? digits with
      | some c =>
        if width = 2 && !flags.unicode && 128 ≤ c.toNat then .error .notAscii else .ok (c, rest)
      | none => .error .invalidEscape
    | none => .error .invalidEscape

/-- The character that a letter behind a backslash names. -/
def namedChar? : Char → Option Char
  | 'n' => some '\n'
  | 'r' => some '\r'
  | 't' => some '\t'
  | 'a' => some (Char.ofNat 7)
  | 'f' => some (Char.ofNat 12)
  | 'v' => some (Char.ofNat 11)
  | _ => none

/-- Whether a character behind a backslash stands for itself: those of ASCII that are no letters or digits,
but for the signs of the starts and the ends of words. -/
def isPlainEscape (c : Char) : Bool :=
  c.toNat < 128 && !c.isAlphanum && c != '<' && c != '>'

/-! ### Properties -/

/-- A property of characters, by one letter or by a name in braces. -/
def readProperty (flags : Flags) (negated : Bool) (cs : List Char) :
    Except Fault (CharSet × List Char) := do
  let (name, rest) ←
    match skip flags cs with
    | [] => .error .invalidEscape
    | '\\' :: _ => .error .invalidEscape
    | '\x7b' :: rest =>
      match readBraced? flags rest with
      | some found => .ok found
      | none => .error .invalidEscape
    | c :: rest => .ok ([c], rest)
  if !flags.unicode then .error .notAscii
  else
    match Text.Property.described? name with
    | some set => .ok (← flags.negate negated (flags.fold set), rest)
    | none => .error .unknownProperty

/-! ### Conditions -/

/-- The condition that a name in braces stands for, behind the sign of a boundary. -/
def namedEdge? : List Char → Option WordEdge
  | ['s', 't', 'a', 'r', 't'] => some .wordStart
  | ['e', 'n', 'd'] => some .wordEnd
  | ['s', 't', 'a', 'r', 't', '-', 'h', 'a', 'l', 'f'] => some .noWordBefore
  | ['e', 'n', 'd', '-', 'h', 'a', 'l', 'f'] => some .noWordAfter
  | _ => none

/-- Whether the text in braces behind the sign of a boundary is a name and not a number of rounds. -/
def opensName (flags : Flags) (cs : List Char) : Bool :=
  match skip flags cs with
  | c :: _ => c.isAlpha || c == '-'
  | [] => true

/-- A boundary of words, which a name in braces can say more of. -/
def readBoundary (flags : Flags) (cs : List Char) : Except Fault (WordEdge × List Char) :=
  match cs with
  | '\x7b' :: rest =>
    if !opensName flags rest then .ok (.boundary, cs)
    else
      match readBraced? flags rest with
      | some (name, rest) =>
        match namedEdge? name with
        | some edge => .ok (edge, rest)
        | none => .error .invalidEscape
      | none => .error .invalidEscape
  | _ => .ok (.boundary, cs)

/-- Reads an escape from behind its backslash. -/
def readEscape (flags : Flags) : Reading Escape
  | [] => .error .invalidEscape
  | c :: rest =>
    let edge (edge : WordEdge) : Escape := .look (.word edge (!flags.unicode))
    match c with
    | 'x' => (readCodePoint flags 2 rest).map fun (c, rest) => (.char c, rest)
    | 'u' => (readCodePoint flags 4 rest).map fun (c, rest) => (.char c, rest)
    | 'U' => (readCodePoint flags 8 rest).map fun (c, rest) => (.char c, rest)
    | 'p' => (readProperty flags false rest).map fun (set, rest) => (.set set, rest)
    | 'P' => (readProperty flags true rest).map fun (set, rest) => (.set set, rest)
    | 'A' => .ok (.look .textStart, rest)
    | 'z' => .ok (.look .textEnd, rest)
    | 'b' => (readBoundary flags rest).map fun (found, rest) => (edge found, rest)
    | 'B' => .ok (edge .noBoundary, rest)
    | '<' => .ok (edge .wordStart, rest)
    | '>' => .ok (edge .wordEnd, rest)
    | c =>
      match letterSet? flags c with
      | some set => set.map fun set => (.set set, rest)
      | none =>
        match namedChar? c with
        | some c => .ok (.char c, rest)
        | none => if isPlainEscape c then .ok (.char c, rest) else .error .invalidEscape

end SearchStore.Pattern
