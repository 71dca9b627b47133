import SearchStore.Pattern.Class
import SearchStore.Pattern.Size

/-!
# Reading patterns

The notation has alternatives `|`, the repetitions `*`, `+`, `?`, `{n,m}` with their lazy forms, plain,
named and non-capturing groups, classes in brackets, the conditions `^` and `$`, escapes, and flags for the rest
of a group or for a group of its own. Look-around and back references are not part of it. A pattern that is
nested too deeply, or whose program is too large, is refused.
-/

namespace SearchStore.Pattern

/-- The state of reading: the flags in force, and the groups seen so far. -/
structure State where
  flags : Flags := {}
  groups : Nat := 0
  names : List (List Char) := []

/-- A part of a pattern, and how deeply its notation is nested. -/
structure Item where
  pattern : Pattern
  depth : Nat
deriving DecidableEq, Repr

/-- The items of a sequence, the last one first; none stands for flags. -/
abbrev Items := List (Option Item)

/-- How deeply the deepest of some items is nested. -/
def deepest (items : Items) : Nat :=
  (items.map fun item => item.elim 0 Item.depth).foldl max 0

/-- The sequence of items, which is nested once more if there are several. -/
def Items.sequence (items : Items) : Item :=
  ⟨concat (items.reverse.filterMap (·.map Item.pattern)),
    if items.length ≤ 1 then deepest items else deepest items + 1⟩

/-- The choice between items, which is nested once more if there are several. -/
def choice (items : List Item) : Item :=
  match items with
  | [item] => item
  | items => ⟨alternatives (items.map Item.pattern), deepest (items.map some) + 1⟩

/-! ### Repetitions -/

/-- The value of a number in decimal, which has at least one digit and fits into 32 bits. -/
def count? (digits : List Char) : Option Nat :=
  let value := digits.foldl (fun n c => n * 10 + (c.toNat - '0'.toNat)) 0
  if digits.isEmpty || UInt32.size ≤ value then none else some value

/-- The digits of a number, among blanks, and the rest. -/
def readDigits (flags : Flags) (cs : List Char) : List Char × List Char :=
  let (digits, rest) := spanOf flags Char.isDigit (cs.dropWhile Text.isBlankChar)
  (digits, skip flags (rest.dropWhile Text.isBlankChar))

/-- Bounds in braces, from behind the opening one: the least and the largest number of rounds. -/
def readBounds (flags : Flags) (cs : List Char) :
    Except Fault ((Nat × Option Nat) × List Char) :=
  let (least, rest) := readDigits flags (skip flags cs)
  match count? least, rest with
  | some least, '\x7d' :: rest => .ok ((least, some least), rest)
  | some least, ',' :: rest =>
    match skip flags rest with
    | '\x7d' :: rest => .ok ((least, none), rest)
    | rest =>
      let (most, rest) := readDigits flags rest
      match count? most, rest with
      | some most, '\x7d' :: rest =>
        if least ≤ most then .ok ((least, some most), rest) else .error .invalidRepetition
      | _, _ => .error .invalidRepetition
  | _, _ => .error .invalidRepetition

/-- A question mark in front, which makes a repetition prefer fewer rounds, and the rest. -/
def readLazy : List Char → Bool × List Char
  | '?' :: rest => (true, rest)
  | cs => (false, cs)

/-- Repeats the last item, if there is one and it is no flags. -/
def repeatLast (flags : Flags) (least : Nat) (most : Option Nat) (marked : Bool) :
    Items → Except Fault Items
  | some item :: items =>
    .ok (some ⟨repeated least most (marked == flags.lazy) item.pattern, item.depth + 1⟩ :: items)
  | _ => .error .nothingToRepeat

/-! ### Groups -/

/-- Whether a character may stand in the name of a group. -/
def isNameChar (first : Bool) (c : Char) : Bool :=
  c == '_' || Text.Property.alphabetic.holds c
    || (!first
      && (['.', '[', ']'].contains c || (Text.Property.categories ["Nd", "Nl", "No"]).holds c))

/-- Whether the characters are the name of a group. -/
def isName : List Char → Bool
  | [] => false
  | c :: rest => isNameChar true c && rest.all (isNameChar false)

/-- Reads the name of a group up to `>`, and notes it. -/
def readName (state : State) (cs : List Char) : Except Fault (State × List Char) :=
  match cs.span (· != '>') with
  | (_, []) => .error .invalidGroupName
  | (name, _ :: rest) =>
    if !isName name then .error .invalidGroupName
    else if state.names.contains name then .error .duplicateGroupName
    else .ok ({ state with names := name :: state.names }, rest)

/-- How a group starts. -/
inductive Opening where
  /-- A numbered group. -/
  | capture
  /-- A group that is not numbered, with flags of its own. -/
  | plain (flags : Flags)
  /-- Flags for the rest of the group around them. -/
  | flags (flags : Flags)

/-- Reads the start of a group from behind its parenthesis. -/
def readOpening (state : State) (cs : List Char) :
    Except Fault ((Opening × State) × List Char) :=
  match skip state.flags cs with
  | '?' :: 'P' :: '<' :: rest =>
    (readName state rest).map fun (state, rest) => ((.capture, state), rest)
  | '?' :: '<' :: rest =>
    (readName state rest).map fun (state, rest) => ((.capture, state), rest)
  | '?' :: rest =>
    (readFlags state.flags [] rest).map fun ((flags, opens), rest) =>
      ((if opens then .plain flags else .flags flags, state), rest)
  | rest => .ok ((.capture, state), rest)

/-! ### Patterns -/

/-- The pattern of a character. -/
def ofChar (flags : Flags) (c : Char) : Pattern :=
  ofSet (flags.fold (.single c))

/-- The pattern of a dot: every character but those that end a line. -/
def ofDot (flags : Flags) : Except Fault Pattern :=
  let ends : CharSet :=
    if flags.dotAll then .empty else if flags.crlf then .ofTable ["A D"] else .ofTable ["A"]
  (flags.negate true ends).map ofSet

/-- Reads a part that is neither a group nor a class. -/
def readAtom (flags : Flags) : Reading Pattern
  | [] => .error .nothingToRepeat
  | '^' :: rest => .ok (.look (if flags.lines then .lineStart flags.crlf else .textStart), rest)
  | '$' :: rest => .ok (.look (if flags.lines then .lineEnd flags.crlf else .textEnd), rest)
  | '.' :: rest => (ofDot flags).map fun p => (p, rest)
  | '\\' :: rest =>
    (readEscape flags rest).map fun (found, rest) =>
      match found with
      | .char c => (ofChar flags c, rest)
      | .set set => (ofSet set, rest)
      | .look condition => (.look condition, rest)
  | c :: rest => .ok (ofChar flags c, rest)

mutual
/-- Reads alternatives up to a closing parenthesis or the end, inside of `level` groups. -/
def readAlternatives : (fuel level : Nat) → State → (read : List Item) → List Char →
    Except Fault ((Item × State) × List Char)
  | 0, _, _, _, _ => .error .tooDeep
  | fuel + 1, level, state, read, cs => do
    let ((item, state), cs) ← readSequence fuel level state [] cs
    match cs with
    | '|' :: rest => readAlternatives fuel level state (item :: read) rest
    | _ => .ok ((choice (item :: read).reverse, state), cs)

/-- Reads the items of a sequence behind those read so far. -/
def readSequence : (fuel level : Nat) → State → (read : Items) → List Char →
    Except Fault ((Item × State) × List Char)
  | 0, _, _, _, _ => .error .tooDeep
  | fuel + 1, level, state, read, cs =>
    let flags := state.flags
    let repeatBy (least : Nat) (most : Option Nat) (rest : List Char) :
        Except Fault ((Item × State) × List Char) := do
      let (marked, rest) := readLazy rest
      readSequence fuel level state (← repeatLast flags least most marked read) rest
    match skip flags cs with
    | [] => .ok ((read.sequence, state), [])
    | '|' :: rest => .ok ((read.sequence, state), '|' :: rest)
    | ')' :: rest => .ok ((read.sequence, state), ')' :: rest)
    | '*' :: rest => repeatBy 0 none rest
    | '+' :: rest => repeatBy 1 none rest
    | '?' :: rest => repeatBy 0 (some 1) rest
    | '\x7b' :: rest => do
      let ((least, most), rest) ← readBounds flags rest
      repeatBy least most (skip flags rest)
    | '[' :: rest => do
      let (part, rest) ← readClass flags fuel level rest
      readSequence fuel level state (some ⟨ofSet part.set, part.depth⟩ :: read) rest
    | '(' :: rest => do
      let ((item, state), rest) ← readGroup fuel level state rest
      readSequence fuel level state (item :: read) rest
    | cs => do
      let (p, rest) ← readAtom flags cs
      readSequence fuel level state (some ⟨p, 0⟩ :: read) rest

/-- Reads a group, or flags, from behind the opening parenthesis. -/
def readGroup : (fuel level : Nat) → State → List Char →
    Except Fault ((Option Item × State) × List Char)
  | 0, _, _, _ => .error .tooDeep
  | fuel + 1, level, state, cs => do
    if nestingLimit ≤ level then throw .tooDeep
    let index := state.groups + 1
    let ((opening, state), cs) ← readOpening state cs
    let (start, wrap) :=
      match opening with
      | .capture => ({ state with groups := index }, Pattern.group index)
      | .plain flags => ({ state with flags }, id)
      | .flags flags => ({ state with flags }, id)
    match opening with
    | .flags _ => .ok ((none, start), cs)
    | _ =>
      let ((item, inner), rest) ← readAlternatives fuel (level + 1) start [] cs
      match rest with
      | ')' :: rest =>
        .ok
          ((some ⟨wrap item.pattern, item.depth + 1⟩, { inner with flags := state.flags }), rest)
      | _ => .error .unclosedGroup
end

/-- Reads a pattern. Every character costs at most three nested calls, which bounds the fuel. -/
def parse (text : String) : Except Fault Pattern := do
  let cs := text.toList
  let ((item, _), rest) ← readAlternatives (3 * cs.length + 3) 0 {} [] cs
  if !rest.isEmpty then .error .unopenedGroup
  else if nestingLimit < item.depth then .error .tooDeep
  else if item.pattern.isTooLarge then .error .tooLarge
  else .ok item.pattern

end SearchStore.Pattern
