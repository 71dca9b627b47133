import SearchStore.Pattern.Escape

/-!
# Classes in the notation of patterns

A class in brackets lists characters, ranges, escapes, named classes such as `[:alpha:]` and further classes. Two
lists are combined by `&&` (in both), `--` (in the first only) or `~~` (in exactly one), from left to right.
-/

namespace SearchStore.Pattern

/-- How deeply groups, repetitions and classes may be nested. -/
def nestingLimit : Nat := 250

/-- A part of a class: its members, and how deeply its notation is nested. -/
structure ClassPart where
  set : CharSet := .empty
  depth : Nat := 0
deriving DecidableEq, Repr

/-- A list of items: how many there are, their members, and how deeply the deepest is nested. -/
structure ClassItems where
  count : Nat := 0
  set : CharSet := .empty
  depth : Nat := 0
deriving DecidableEq, Repr

/-- The list with one more item. -/
def ClassItems.add (items : ClassItems) (item : ClassPart) : ClassItems :=
  ⟨items.count + 1, items.set.union item.set, max items.depth item.depth⟩

/-- The list as one part, which is nested once more if it holds several items. -/
def ClassItems.part (items : ClassItems) : ClassPart :=
  ⟨items.set, if items.count ≤ 1 then items.depth else items.depth + 1⟩

/-- The operation that starts a text, from behind its first sign. -/
def classOp? : List Char → Option ((CharSet → CharSet → CharSet) × List Char)
  | '&' :: '&' :: rest => some (CharSet.inter, rest)
  | '-' :: '-' :: rest => some (CharSet.diff, rest)
  | '~' :: '~' :: rest => some (CharSet.symmDiff, rest)
  | _ => none

/-- What stands in front of a list of items: nothing, or the left side of an operation. -/
abbrev LeftSide := Option ((CharSet → CharSet → CharSet) × ClassPart)

/-- A list of items together with the operation that it is the right side of. -/
def ClassItems.close (flags : Flags) (left : LeftSide) (items : ClassItems) : ClassPart :=
  match left with
  | none => items.part
  | some (op, left) =>
    let right := items.part
    ⟨op (flags.fold left.set) (flags.fold right.set), max left.depth right.depth + 1⟩

/-! ### Items -/

/-- A character of a class. Where the flag `u` is off, it has to be one of ASCII. -/
def classChar (flags : Flags) (c : Char) : Except Fault CharSet :=
  if !flags.unicode && 128 ≤ c.toNat then .error .notAscii else .ok (.single c)

/-- Reads an escape, or a character that stands for itself. -/
def readMember (flags : Flags) : Reading Escape
  | [] => .error .unclosedClass
  | '\\' :: rest => readEscape flags rest
  | c :: rest => .ok (.char c, rest)

/-- The character that decides whether a hyphen in front of it makes a range. In spaced notation it is the
next one that is not blank, where one number sign is passed over. -/
def behindHyphen? (flags : Flags) (cs : List Char) : Option Char :=
  if !flags.spaced then cs.head?
  else
    match cs.dropWhile Text.isBlankChar with
    | '#' :: rest => (rest.dropWhile Text.isBlankChar).head?
    | rest => rest.head?

/-- Whether a hyphen in front makes a range. -/
def opensRange (flags : Flags) : List Char → Bool
  | '-' :: rest =>
    match behindHyphen? flags rest with
    | some c => c != ']' && c != '-'
    | none => true
  | _ => false

/-- The members of a range. -/
def classRange (flags : Flags) : Escape → Escape → Except Fault CharSet
  | .char low, .char high => do
    let _ ← classChar flags low
    let _ ← classChar flags high
    if low ≤ high then .ok (.range low high) else .error .invalidRange
  | _, _ => .error .invalidRange

/-- Reads an item other than a class: a range, a character or a set. -/
def readItem (flags : Flags) (cs : List Char) : Except Fault (CharSet × List Char) := do
  let (low, rest) ← readMember flags cs
  let rest := skip flags rest
  if opensRange flags rest then
    let (high, rest) ← readMember flags (skip flags rest.tail)
    .ok (← classRange flags low high, rest)
  else
    match low with
    | .char c => .ok (← classChar flags c, rest)
    | .set set => .ok (set, rest)
    | .look _ => .error .invalidEscape

/-- Reads a named class from behind its opening bracket, if one stands there. -/
def readNamedClass? (flags : Flags) : List Char → Option (Except Fault CharSet × List Char)
  | ':' :: rest =>
    let (negated, rest) :=
      match rest with
      | '^' :: rest => (true, rest)
      | _ => (false, rest)
    match rest.span (· != ':') with
    | (name, ':' :: ']' :: rest) =>
      (asciiClass? (String.ofList name)).map fun set =>
        (flags.negate negated (flags.fold set), rest)
    | _ => none
  | _ => none

/-- The hyphens that a class starts with, each of which stands for itself, and the rest. -/
def readHyphens (flags : Flags) : (fuel : Nat) → ClassItems → List Char → ClassItems × List Char
  | 0, items, cs => (items, cs)
  | fuel + 1, items, cs =>
    match skip flags cs with
    | '-' :: rest => readHyphens flags fuel (items.add ⟨.single '-', 0⟩) rest
    | rest => (items, rest)

/-- The items that a class starts with: hyphens, or a closing bracket that stands for itself. -/
def readFirstItems (flags : Flags) (cs : List Char) : ClassItems × List Char :=
  let (items, rest) := readHyphens flags cs.length {} cs
  match rest with
  | ']' :: rest' => if items.count = 0 then (items.add ⟨.single ']', 0⟩, rest') else (items, rest)
  | _ => (items, rest)

/-! ### Classes -/

mutual
/-- Reads a class from behind its opening bracket, inside of further `level` groups and classes. -/
def readClass (flags : Flags) : (fuel level : Nat) → Reading ClassPart
  | 0, _, _ => .error .tooDeep
  | fuel + 1, level, cs => do
    if nestingLimit ≤ level then throw .tooDeep
    let (negated, cs) :=
      match skip flags cs with
      | '^' :: rest => (true, rest)
      | cs => (false, cs)
    let (items, cs) := readFirstItems flags cs
    let (part, cs) ← readClassItems flags fuel (level + 1) none items cs
    let set ← flags.negate negated (flags.fold part.set)
    .ok (⟨set, part.depth + 1⟩, cs)

/-- Reads the items of a class up to its closing bracket. -/
def readClassItems (flags : Flags) :
    (fuel level : Nat) → LeftSide → ClassItems → Reading ClassPart
  | 0, _, _, _, _ => .error .tooDeep
  | fuel + 1, level, left, items, cs =>
    match skip flags cs with
    | [] => .error .unclosedClass
    | ']' :: rest => .ok (items.close flags left, rest)
    | '[' :: rest =>
      match readNamedClass? flags rest with
      | some (set, rest) => do
        readClassItems flags fuel level left (items.add ⟨← set, 0⟩) rest
      | none => do
        let (part, rest) ← readClass flags fuel level rest
        readClassItems flags fuel level left (items.add part) rest
    | cs =>
      match classOp? cs with
      | some (op, rest) => readClassItems flags fuel level (some (op, items.close flags left)) {} rest
      | none => do
        let (set, rest) ← readItem flags cs
        readClassItems flags fuel level left (items.add ⟨set, 0⟩) rest
end

end SearchStore.Pattern
