import SearchStore.Text.Blank
import SearchStore.Time.Moment

/-!
# Reading dates and times

Three notations are read. `rfc3339?` is the strict one: every field at its full width, an offset with
a colon. `dateTime?` and `date?` read a time without an offset, or a date alone, with fields of up to
their width and blank space in front of each. `relaxed` reads what `rfc3339?` reads, with the looser
fields, and says what is wrong with other text.

A reader takes the characters that are left and returns a value with the characters behind it.
-/

namespace SearchStore.Time

/-- What is wrong with a text that should be a date. -/
inductive Fault where
  | tooShort
  | invalid
  | outOfRange
  | tooLong
  | impossible
deriving DecidableEq, Repr

/-- The text of a fault. -/
def Fault.message : Fault → String
  | .tooShort => "premature end of input"
  | .invalid => "input contains invalid characters"
  | .outOfRange => "input is out of range"
  | .tooLong => "trailing input"
  | .impossible => "no possible date and time matching input"

/-- A reader of the characters in front. -/
abbrev Reading (α : Type) := List Char → Except Fault (α × List Char)

/-- The natural spelled by decimal digits. -/
def valueOf (digits : List Char) : Nat :=
  digits.foldl (fun n c => n * 10 + (c.toNat - '0'.toNat)) 0

/-- At least `least` and at most `most` digits; without a limit all digits in front are read. -/
def number (least : Nat) (most : Option Nat) : Reading Nat := fun cs =>
  let window := (most.map cs.take).getD cs
  let digits := window.takeWhile Char.isDigit
  if cs.length < least then .error .tooShort
  else if digits.length < least then .error .invalid
  else .ok (valueOf digits, cs.drop digits.length)

/-- One given character. -/
def literal (c : Char) : Reading Unit
  | [] => .error .tooShort
  | d :: rest => if d = c then .ok ((), rest) else .error .invalid

/-- A number within bounds. -/
def within (low high : Nat) (read : Reading Nat) : Reading Nat := fun cs => do
  let (n, cs) ← read cs
  if low ≤ n ∧ n ≤ high then .ok (n, cs) else .error .outOfRange

/-- A year that fits 32 bits. -/
def yearInRange (year : Int) (cs : List Char) : Except Fault (Int × List Char) :=
  if -0x80000000 ≤ year ∧ year < 0x80000000 then .ok (year, cs) else .error .outOfRange

/-- The digits of a second's fraction, as nanoseconds; digits beyond the ninth are dropped. -/
def fraction : Reading Nat
  | '.' :: rest => do
    let (n, after) ← number 1 (some 9) rest
    let width := rest.length - after.length
    .ok (n * Nat.pow 10 (9 - width), after.dropWhile Char.isDigit)
  | cs => .ok (0, cs)

/-- The sign of an offset: whether it is negative. The minus sign U+2212 counts as one. -/
def offsetSign : Reading Bool
  | [] => .error .tooShort
  | c :: rest =>
    if c = '+' then .ok (false, rest)
    else if c = '-' || c = '\u2212' then .ok (true, rest)
    else .error .invalid

/-- Two digits of an offset. -/
def offsetDigits : Reading (Nat × Nat)
  | [] => .error .tooShort
  | [c] => .error (if c.toNat < 128 then .tooShort else .invalid)
  | c :: d :: rest =>
    if c.isDigit && d.isDigit then .ok ((c.toNat - '0'.toNat, d.toNat - '0'.toNat), rest)
    else .error .invalid

/-- A numeric offset or `Z`, in seconds. Between hours and minutes stands what `separator` reads. -/
def offset (separator : Reading Unit) : Reading Int := fun cs =>
  match cs with
  | 'Z' :: rest => .ok (0, rest)
  | 'z' :: rest => .ok (0, rest)
  | _ => do
    let (negative, cs) ← offsetSign cs
    let ((h, h'), cs) ← offsetDigits cs
    let ((), cs) ← separator cs
    let ((m, m'), cs) ← offsetDigits cs
    if 5 < m then .error .outOfRange
    else
      let seconds : Int := ((h * 10 + h') * 3600 + (m * 10 + m') * 60 : Nat)
      .ok (if negative then -seconds else seconds, cs)

/-- Date and time as written on a clock that is `offset` seconds ahead of UTC. -/
structure Fields where
  year : Int
  month : Nat
  day : Nat
  hour : Nat
  minute : Nat
  second : Nat
  nano : Nat
  offset : Int
deriving DecidableEq, Repr

/-- The moment the fields name. -/
def Fields.resolve (f : Fields) : Except Fault Moment :=
  match Date.ofFields? f.year f.month f.day with
  | none => .error .outOfRange
  | some date =>
    match Moment.ofClock? date f.hour f.minute f.second f.nano with
    | none => .error .outOfRange
    | some m =>
      match m.withoutOffset? f.offset with
      | none => .error .impossible
      | some m => .ok m

/-! ### The strict notation -/

/-- The fields of `YYYY-MM-DDTHH:MM:SS`, with an optional fraction, and an offset. -/
def strictFields : Reading Fields := fun cs => do
  let (year, cs) ← number 4 (some 4) cs
  let ((), cs) ← literal '-' cs
  let (month, cs) ← within 1 12 (number 2 (some 2)) cs
  let ((), cs) ← literal '-' cs
  let (day, cs) ← within 1 31 (number 2 (some 2)) cs
  let ((), cs) ← strictSeparator cs
  let (hour, cs) ← within 0 23 (number 2 (some 2)) cs
  let ((), cs) ← literal ':' cs
  let (minute, cs) ← within 0 59 (number 2 (some 2)) cs
  let ((), cs) ← literal ':' cs
  let (second, cs) ← within 0 60 (number 2 (some 2)) cs
  let (nano, cs) ← fraction cs
  let (ahead, cs) ← offset (literal ':') cs
  if ahead.natAbs ≤ (23 * 60 + 59) * 60 then
    .ok ({ year, month, day, hour, minute, second, nano, offset := ahead }, cs)
  else .error .outOfRange
where
  /-- The character between date and time. -/
  strictSeparator : Reading Unit
    | [] => .error .tooShort
    | c :: rest => if c = 't' || c = 'T' || c = ' ' then .ok ((), rest) else .error .invalid

/-- The value of a reader that reads all of the text. -/
def whole {α : Type} (read : Reading α) (text : List Char) : Except Fault α := do
  let (value, rest) ← read text
  if rest.isEmpty then .ok value else .error .tooLong

/-- Reads the strict notation. -/
def rfc3339? (text : List Char) : Option Moment :=
  (whole strictFields text >>= Fields.resolve).toOption

/-! ### Looser fields -/

/-- A field of at most `width` digits with blank space in front. -/
def field (width : Nat) : Reading Nat := fun cs =>
  number 1 (some width) (Text.trimLeft cs)

/-- A year of at most four digits, or of any number of digits behind a sign. -/
def yearField : Reading Int := fun cs =>
  match Text.trimLeft cs with
  | '-' :: rest => do
    let (n, cs) ← number 1 none rest
    yearInRange (-(n : Int)) cs
  | '+' :: rest => do
    let (n, cs) ← number 1 none rest
    yearInRange n cs
  | cs => do
    let (n, cs) ← number 1 (some 4) cs
    yearInRange n cs

/-- Year, month and day; `gap` is read in front of each hyphen. -/
def dateFields (gap : List Char → List Char) : Reading (Int × Nat × Nat) := fun cs => do
  let (year, cs) ← yearField cs
  let ((), cs) ← literal '-' (gap cs)
  let (month, cs) ← within 1 12 (field 2) cs
  let ((), cs) ← literal '-' (gap cs)
  let (day, cs) ← within 1 31 (field 2) cs
  .ok ((year, month, day), cs)

/-- Hour, minute and second; `gap` is read in front of each colon. -/
def clockFields (gap : List Char → List Char) : Reading (Nat × Nat × Nat) := fun cs => do
  let (hour, cs) ← within 0 23 (field 2) cs
  let ((), cs) ← literal ':' (gap cs)
  let (minute, cs) ← within 0 59 (field 2) cs
  let ((), cs) ← literal ':' (gap cs)
  let (second, cs) ← within 0 60 (field 2) cs
  .ok ((hour, minute, second), cs)

/-- A date and a time in UTC with `separator` between them. -/
def dateTimeFields (separator : Reading Unit) : Reading Fields := fun cs => do
  let ((year, month, day), cs) ← dateFields id cs
  let ((), cs) ← separator cs
  let ((hour, minute, second), cs) ← clockFields id cs
  .ok ({ year, month, day, hour, minute, second, nano := 0, offset := 0 }, cs)

/-- Blank space, possibly none. -/
def blanks : Reading Unit := fun cs =>
  .ok ((), Text.trimLeft cs)

/-- Reads a date and a time without an offset, with `T` or else blank space between them. -/
def dateTime? (text : List Char) : Option Moment :=
  (whole (dateTimeFields (literal 'T')) text >>= Fields.resolve).toOption
    <|> (whole (dateTimeFields blanks) text >>= Fields.resolve).toOption

/-- Reads a date, taken at midnight. -/
def date? (text : List Char) : Option Moment :=
  (do
    let (year, month, day) ← whole (dateFields id) text
    Fields.resolve
      { year, month, day, hour := 0, minute := 0, second := 0, nano := 0, offset := 0 }).toOption

/-! ### The relaxed notation -/

/-- Colons and blank space, possibly none. -/
def colonsOrBlanks : Reading Unit := fun cs =>
  .ok ((), cs.dropWhile fun c => c == ':' || Text.isBlankChar c)

/-- The letters of `UTC` in either case. -/
def isUtc : List Char → Bool
  | u :: t :: c :: _ => u.toUpper == 'U' && t.toUpper == 'T' && c.toUpper == 'C'
  | _ => false

/-- An offset, `Z` or `UTC`. -/
def relaxedOffset : Reading Int := fun cs =>
  if isUtc cs then .ok (0, cs.drop 3) else offset colonsOrBlanks cs

/-- The character between date and time: `T` of either case or a blank one. -/
def relaxedSeparator : Reading Unit
  | [] => .error .tooShort
  | c :: rest =>
    if c = 't' || c = 'T' || Text.isBlankChar c then .ok ((), rest) else .error .invalid

/-- Date, time, fraction and offset with blank space around each of them. -/
def relaxedFields : Reading Fields := fun cs => do
  let ((year, month, day), cs) ← dateFields Text.trimLeft cs
  let ((), cs) ← relaxedSeparator cs
  let ((hour, minute, second), cs) ← clockFields Text.trimLeft cs
  let (nano, cs) ← fraction cs
  let (ahead, cs) ← relaxedOffset (Text.trimLeft cs)
  .ok ({ year, month, day, hour, minute, second, nano, offset := ahead }, Text.trimLeft cs)

/-- Reads the relaxed notation. An offset of a day or more names no moment. -/
def relaxed (text : String) : Except Fault Moment := do
  let fields ← whole relaxedFields text.toList
  if fields.offset.natAbs < 86400 then fields.resolve else .error .outOfRange

end SearchStore.Time
