import SearchStore.Text.Blank

/-!
# Flags and spacing in the notation of patterns

Flags change how the rest of a group is read. One of them, `x`, lets the notation be spaced: blanks stand for
nothing, and a number sign starts a comment up to the end of the line.
-/

namespace SearchStore.Pattern

/-- What is wrong with the notation of a pattern. -/
inductive Fault where
  | unclosedGroup
  | unopenedGroup
  | invalidFlags
  | invalidGroupName
  | duplicateGroupName
  | unclosedClass
  | invalidRange
  | nothingToRepeat
  | invalidRepetition
  | invalidEscape
  | unknownProperty
  /-- A set that takes in more than ASCII characters, where the flag `u` is off. -/
  | notAscii
  /-- Groups, repetitions and classes are nested more deeply than `nestingLimit`. -/
  | tooDeep
  /-- The program of the pattern is larger than `sizeLimit`. -/
  | tooLarge
deriving DecidableEq, Repr

/-- A fault in words. -/
def Fault.text : Fault → String
  | .unclosedGroup => "unclosed group"
  | .unopenedGroup => "unopened group"
  | .invalidFlags => "invalid flags"
  | .invalidGroupName => "invalid capture group name"
  | .duplicateGroupName => "duplicate capture group name"
  | .unclosedClass => "unclosed character class"
  | .invalidRange => "invalid character class range"
  | .nothingToRepeat => "repetition operator missing expression"
  | .invalidRepetition => "invalid repetition count"
  | .invalidEscape => "invalid escape sequence"
  | .unknownProperty => "Unicode property not found"
  | .notAscii => "Unicode not allowed here"
  | .tooDeep => "exceed the maximum number of nested parentheses/brackets"
  | .tooLarge => "compiled pattern exceeds size limit"

/-- A reader of the characters in front. -/
abbrev Reading (α : Type) := List Char → Except Fault (α × List Char)

/-! ### Flags -/

/-- The flags in force at a place of a pattern. -/
structure Flags where
  /-- Characters that differ in case alone match each other. -/
  caseless : Bool := false
  /-- `^` and `$` match at lines. -/
  lines : Bool := false
  /-- `.` matches the end of a line too. -/
  dotAll : Bool := false
  /-- Lines end with a carriage return too. -/
  crlf : Bool := false
  /-- Repetitions are lazy unless marked as greedy. -/
  lazy : Bool := false
  /-- Sets take in characters of all scripts. -/
  unicode : Bool := true
  /-- The notation is spaced. -/
  spaced : Bool := false
deriving DecidableEq, Repr

/-- The flags with one letter switched. -/
def Flags.set? (flags : Flags) (value : Bool) : Char → Option Flags
  | 'i' => some { flags with caseless := value }
  | 'm' => some { flags with lines := value }
  | 's' => some { flags with dotAll := value }
  | 'R' => some { flags with crlf := value }
  | 'U' => some { flags with lazy := value }
  | 'u' => some { flags with unicode := value }
  | 'x' => some { flags with spaced := value }
  | _ => none

/-- Reads flags up to `:`, which opens a group, or `)`, in front of which there must be a flag. No flag
may stand twice, and a hyphen, which switches the flags behind it off, may not stand last; `seen` holds the
characters read so far, last first. The answer tells whether a group is opened. -/
def readFlags (flags : Flags) (seen : List Char) : Reading (Flags × Bool)
  | [] => .error .unclosedGroup
  | c :: rest =>
    if c = ':' || c = ')' then
      if seen.head? = some '-' || (c = ')' && seen.isEmpty) then .error .invalidFlags
      else .ok ((flags, c = ':'), rest)
    else if seen.contains c then .error .invalidFlags
    else if c = '-' then readFlags flags (c :: seen) rest
    else
      match flags.set? (!seen.contains '-') c with
      | some flags => readFlags flags (c :: seen) rest
      | none => .error .invalidFlags

/-! ### Spacing -/

/-- The characters from the first one on that is neither blank nor in a comment. -/
def skipSpacing (comment : Bool) : List Char → List Char
  | [] => []
  | c :: rest =>
    if comment then skipSpacing (c != '\n') rest
    else if Text.isBlankChar c then skipSpacing false rest
    else if c = '#' then skipSpacing true rest
    else c :: rest

/-- The characters from the first one on that stands for something. -/
def skip (flags : Flags) (cs : List Char) : List Char :=
  if flags.spaced then skipSpacing false cs else cs

/-- The characters in front for which `p` holds, and the rest, where blanks and comments in between are left
out. -/
def spanSpacing (p : Char → Bool) (comment : Bool) : List Char → List Char × List Char
  | [] => ([], [])
  | c :: rest =>
    if comment then spanSpacing p (c != '\n') rest
    else if Text.isBlankChar c then spanSpacing p false rest
    else if c = '#' then spanSpacing p true rest
    else if p c then
      let (front, rest) := spanSpacing p false rest
      (c :: front, rest)
    else ([], c :: rest)

/-- The characters in front for which `p` holds, among those that stand for something, and the rest. -/
def spanOf (flags : Flags) (p : Char → Bool) (cs : List Char) : List Char × List Char :=
  if flags.spaced then spanSpacing p false cs else cs.span p

/-- The text in braces, from behind the opening one. -/
def readBraced? (flags : Flags) (cs : List Char) : Option (List Char × List Char) :=
  match spanOf flags (· != '\x7d') cs with
  | (text, _ :: rest) => some (text, rest)
  | (_, []) => none

/-- The next `n` characters that stand for something. -/
def take? (flags : Flags) : (n : Nat) → List Char → Option (List Char × List Char)
  | 0, cs => some ([], cs)
  | n + 1, cs =>
    match skip flags cs with
    | [] => none
    | c :: rest => (take? flags n rest).map fun (front, rest) => (c :: front, rest)

end SearchStore.Pattern
