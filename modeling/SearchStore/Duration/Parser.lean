import SearchStore.Duration.Basic
import SearchStore.Text.Blank

/-!
# Reading durations

A duration is `0`, or a sequence of numbers with a unit behind each, and the parts add up. Blank space
may stand around numbers, between their digits and behind a unit; a digit ends a unit as well. A
number may have a decimal fraction if the part it stands for is exact: whole nanoseconds for units up
to the minute, whole seconds for longer ones, and none for nanoseconds. Everything is counted in words
of 64 bits, and what no longer fits is refused.

The text is scanned once from left to right, so the first fault wins. Offsets count bytes of UTF-8.
-/

namespace SearchStore.Duration

/-- What is wrong with a text that should be a duration. -/
inductive Fault where
  | empty
  | numberExpected (offset : Nat)
  | invalidCharacter (offset : Nat)
  | unknownUnit (unit : String) (count : Nat)
  | overflow
deriving DecidableEq, Repr

/-- The text of a fault. -/
def Fault.message : Fault → String
  | .empty => "value was empty"
  | .numberExpected offset => "expected number at " ++ toString offset
  | .invalidCharacter offset => "invalid character at " ++ toString offset
  | .unknownUnit unit count =>
    if unit = "" then
      "time unit needed, for example " ++ toString count ++ "sec or " ++ toString count ++ "ms"
    else
      "unknown time unit \"" ++ unit ++ "\", supported units: ns, us/µs, ms, sec, min, hours, " ++
        "days, weeks, months, years (and few variations)"
  | .overflow =>
    "number is too large or cannot be represented without a lack of precision (values below " ++
      "1ns are not supported)"

/-- A natural that fits 64 bits. -/
def word (n : Nat) : Except Fault Nat :=
  if n < UInt64.size then .ok n else .error .overflow

/-- The quotient, if there is no rest. -/
def exactQuotient (n d : Nat) : Except Fault Nat :=
  if n % d = 0 then .ok (n / d) else .error .overflow

/-! ### Adding parts -/

/-- The duration with seconds and nanoseconds added. -/
def add (d : Duration) (seconds nanos : Nat) : Except Fault Duration := do
  let total ← word (d.nanos + nanos)
  let seconds ← word (d.seconds + seconds + total / 1_000_000_000)
  .ok ⟨seconds, total % 1_000_000_000⟩

/-- A number before its unit: the integer part, and the fraction `numerator / denominator`. -/
structure Quantity where
  whole : Nat
  fraction : Option (Nat × Nat)
deriving DecidableEq, Repr

/-- The duration with a number of units added. -/
def addQuantity (d : Duration) (q : Quantity) (spelling : String) : Except Fault Duration := do
  let some unit := TimeUnit.ofSpelling? spelling | .error (.unknownUnit spelling q.whole)
  let d ←
    match unit.inSeconds with
    | some length => do d.add (← word (q.whole * length)) 0
    | none => do d.add 0 (← word (q.whole * unit.inNanos.getD 1))
  match q.fraction with
  | none => .ok d
  | some (numerator, denominator) =>
    match unit, unit.inNanos, unit.inSeconds with
    | .nanosecond, _, _ => .error .overflow
    | _, some length, _ => do
      d.add 0 (← exactQuotient (← word (numerator * length)) denominator)
    | _, none, length => do
      d.add (← exactQuotient (← word (numerator * length.getD 1)) denominator) 0

/-! ### Scanning -/

/-- The characters of a unit. -/
def isUnitChar (c : Char) : Bool :=
  c.isAlpha || c == 'µ'

/-- Characters that are left, with the offset of the first. -/
structure Rest where
  offset : Nat
  chars : List Char

/-- The offset behind a character. -/
def after (offset : Nat) (c : Char) : Nat := offset + c.utf8Size

/-- Finds the first digit of the next number; none at the end of the text. `start` is where the
search began. -/
def firstDigit (start : Nat) : (offset : Nat) → List Char → Except Fault (Option (Nat × Rest))
  | _, [] => .ok none
  | offset, c :: rest =>
    if c.isDigit then .ok (some (c.toNat - '0'.toNat, ⟨after offset c, rest⟩))
    else if Text.isBlankChar c then firstDigit start (after offset c) rest
    else .error (.numberExpected start)

/-- Reads a fraction from behind its point, up to the unit. `last` is the offset behind the last
character taken, the point itself not counted. -/
def scanFraction (numerator denominator : Nat) : (last offset : Nat) → List Char →
    Except Fault ((Nat × Nat) × Rest)
  | last, offset, [] =>
    if denominator = 1 then .error (.invalidCharacter last)
    else .ok ((numerator, denominator), ⟨offset, []⟩)
  | last, offset, c :: rest =>
    if c.isDigit then do
      let denominator ← word (denominator * 10)
      let numerator ← word (numerator * 10 + (c.toNat - '0'.toNat))
      scanFraction numerator denominator (after offset c) (after offset c) rest
    else if Text.isBlankChar c then
      scanFraction numerator denominator (after offset c) (after offset c) rest
    else if isUnitChar c then
      if denominator = 1 then .error (.invalidCharacter last)
      else .ok ((numerator, denominator), ⟨offset, c :: rest⟩)
    else .error (.invalidCharacter last)

/-- Reads the rest of a number, up to its unit. -/
def scanNumber (whole : Nat) : (offset : Nat) → List Char → Except Fault (Quantity × Rest)
  | offset, [] => .ok (⟨whole, none⟩, ⟨offset, []⟩)
  | offset, c :: rest =>
    if c.isDigit then do
      let whole ← word (whole * 10 + (c.toNat - '0'.toNat))
      scanNumber whole (after offset c) rest
    else if Text.isBlankChar c then scanNumber whole (after offset c) rest
    else if isUnitChar c then .ok (⟨whole, none⟩, ⟨offset, c :: rest⟩)
    else if c = '.' then do
      let (fraction, rest) ← scanFraction 0 1 offset (after offset c) rest
      .ok (⟨whole, some fraction⟩, rest)
    else .error (.invalidCharacter offset)

/-- What stands behind a unit. -/
inductive Behind where
  /-- The unit ended with blank space or with the text. -/
  | gap (rest : Rest)
  /-- The unit ended with the first digit of the next number. -/
  | digit (value : Nat) (rest : Rest)

/-- Reads a unit; `spelling` holds its characters so far, last first. -/
def scanUnit (spelling : List Char) : (offset : Nat) → List Char →
    Except Fault (String × Behind)
  | offset, [] => .ok (String.ofList spelling.reverse, .gap ⟨offset, []⟩)
  | offset, c :: rest =>
    if c.isDigit then
      .ok (String.ofList spelling.reverse, .digit (c.toNat - '0'.toNat) ⟨after offset c, rest⟩)
    else if Text.isBlankChar c then
      .ok (String.ofList spelling.reverse, .gap ⟨after offset c, rest⟩)
    else if isUnitChar c then scanUnit (c :: spelling) (after offset c) rest
    else .error (.invalidCharacter offset)

/-- Reads parts and adds them up, from behind the first digit of a number. Every part takes at least
one character, which bounds the fuel. -/
def scanParts : (fuel : Nat) → Duration → (digit : Nat) → Rest → Except Fault Duration
  | 0, d, _, _ => .ok d
  | fuel + 1, d, digit, rest => do
    let (quantity, rest) ← scanNumber digit rest.offset rest.chars
    let (spelling, behind) ← scanUnit [] rest.offset rest.chars
    let d ← addQuantity d quantity spelling
    match behind with
    | .digit next rest => scanParts fuel d next rest
    | .gap rest =>
      match ← firstDigit rest.offset rest.offset rest.chars with
      | none => .ok d
      | some (next, rest) => scanParts fuel d next rest

/-- Reads a duration. -/
def parse (text : String) : Except Fault Duration :=
  if text = "0" then .ok ⟨0, 0⟩
  else
    match firstDigit 0 0 text.toList with
    | .error fault => .error fault
    | .ok none => .error .empty
    | .ok (some (digit, rest)) => scanParts (text.toList.length + 1) ⟨0, 0⟩ digit rest

end SearchStore.Duration
