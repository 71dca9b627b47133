import SearchStore.Json.Basic
import SearchStore.Decimal.Reading

/-!
# Reading JSON text

`Json.parse` reads one value with blank space around it. Each reader takes the characters that are
left and returns what it read with the characters behind it, or none when the text is malformed.
A number without fraction and exponent stays an integer if 64 bits hold it. Arrays and objects nest
at most `maxDepth` deep. A repeated key keeps its first position and takes the last value.
-/

namespace SearchStore.Json

/-- The deepest nesting of arrays and objects that is read. -/
def maxDepth : Nat := 127

/-- The blank characters between tokens. -/
def isSpace (c : Char) : Bool :=
  c == ' ' || c == '\n' || c == '\t' || c == '\r'

/-- The characters from the next token on. -/
def skipSpace (cs : List Char) : List Char :=
  cs.dropWhile isSpace

/-! ### Strings -/

/-- The value of a hexadecimal digit of either case. -/
def hexValue? (c : Char) : Option Nat :=
  if c.isDigit then some (c.toNat - '0'.toNat)
  else if 'a' ≤ c && c ≤ 'f' then some (c.toNat - 'a'.toNat + 10)
  else if 'A' ≤ c && c ≤ 'F' then some (c.toNat - 'A'.toNat + 10)
  else none

/-- The value of four hexadecimal digits. -/
def hexUnit? (a b c d : Char) : Option Nat :=
  match hexValue? a, hexValue? b, hexValue? c, hexValue? d with
  | some a, some b, some c, some d => some (((a * 16 + b) * 16 + c) * 16 + d)
  | _, _, _, _ => none

/-- The first half of a surrogate pair. -/
def isHighSurrogate (unit : Nat) : Bool := 0xD800 ≤ unit && unit < 0xDC00

/-- The second half of a surrogate pair. -/
def isLowSurrogate (unit : Nat) : Bool := 0xDC00 ≤ unit && unit < 0xE000

/-- The character that a surrogate pair stands for. -/
def ofSurrogates (high low : Nat) : Char :=
  Char.ofNat (0x10000 + (high - 0xD800) * 0x400 + (low - 0xDC00))

/-- The character behind a backslash, `\u` apart. -/
def escaped? : Char → Option Char
  | '"' => some '"'
  | '\\' => some '\\'
  | '/' => some '/'
  | 'b' => some (Char.ofNat 8)
  | 'f' => some (Char.ofNat 12)
  | 'n' => some '\n'
  | 'r' => some '\r'
  | 't' => some '\t'
  | _ => none

/-- Reads a string from behind its opening quote; `read` holds its characters so far, last first. -/
def readString (read : List Char) : List Char → Option (String × List Char)
  | [] => none
  | '"' :: rest => some (String.ofList read.reverse, rest)
  | '\\' :: 'u' :: a :: b :: c :: d :: rest =>
    match hexUnit? a b c d with
    | none => none
    | some unit =>
      if isLowSurrogate unit then none
      else if isHighSurrogate unit then
        match rest with
        | '\\' :: 'u' :: e :: f :: g :: h :: rest =>
          match hexUnit? e f g h with
          | none => none
          | some low =>
            if isLowSurrogate low then readString (ofSurrogates unit low :: read) rest else none
        | _ => none
      else readString (Char.ofNat unit :: read) rest
  | '\\' :: c :: rest =>
    match escaped? c with
    | some e => readString (e :: read) rest
    | none => none
  | c :: rest => if c = '\\' || c.toNat < 0x20 then none else readString (c :: read) rest

/-! ### Numbers -/

/-- The value of a decimal digit. -/
def digitValue (c : Char) : Nat := c.toNat - '0'.toNat

/-- The natural that a list of digits spells. -/
def naturalOf (digits : List Char) : Nat :=
  digits.foldl (fun n c => n * 10 + digitValue c) 0

/-- The digits in front and what follows them. -/
def spanDigits (cs : List Char) : List Char × List Char :=
  (cs.takeWhile Char.isDigit, cs.dropWhile Char.isDigit)

/-- An optional minus sign. -/
def readMinus : List Char → Bool × List Char
  | '-' :: rest => (true, rest)
  | cs => (false, cs)

/-- The digits of a fraction, none when there is no point; a point needs a digit behind it. -/
def readFraction? : List Char → Option (Option (List Char) × List Char)
  | '.' :: rest =>
    match spanDigits rest with
    | ([], _) => none
    | (digits, rest) => some (some digits, rest)
  | cs => some (none, cs)

/-- The digits of an exponent behind its letter. -/
def readExponentDigits (negative : Bool) (cs : List Char) : Option (Option Int × List Char) :=
  match spanDigits cs with
  | ([], _) => none
  | (digits, rest) =>
    some (some (if negative then -(naturalOf digits : Int) else naturalOf digits), rest)

/-- An optional exponent. -/
def readExponent? : List Char → Option (Option Int × List Char)
  | c :: rest =>
    if c = 'e' || c = 'E' then
      match rest with
      | '+' :: rest => readExponentDigits false rest
      | '-' :: rest => readExponentDigits true rest
      | rest => readExponentDigits false rest
    else some (none, c :: rest)
  | [] => some (none, [])

/-- An integer literal that 64 bits hold; `-0` is not an integer. -/
def integer? (negative : Bool) (n : Nat) : Option Number :=
  if negative then
    if h : n - 1 < 0x8000000000000000 then if n = 0 then none else some (.negative ⟨n - 1, h⟩) else none
  else if n < UInt64.size then some (.natural (UInt64.ofNat n)) else none

/-- The number of a literal, none when it is too large. -/
def numberOf? (negative : Bool) (whole : List Char) (fraction : Option (List Char))
    (exponent : Option Int) : Option Number :=
  let binary? : Option Number :=
    let read := Decimal.readFraction (Decimal.readInteger 0 (whole.map digitValue))
      ((fraction.getD []).map digitValue)
    let scaled : Decimal.Scientific := ⟨read.significand, read.exponent + exponent.getD 0⟩
    (scaled.toBinary64? negative).map .binary
  match fraction, exponent with
  | none, none => integer? negative (naturalOf whole) <|> binary?
  | _, _ => binary?

/-- Reads a number; an integer part of several digits does not start with zero. -/
def readNumber (cs : List Char) : Option (Number × List Char) := do
  let (negative, cs) := readMinus cs
  let (whole, cs) := spanDigits cs
  if whole = [] || (whole.head? == some '0' && 1 < whole.length) then none
  else
    let (fraction, cs) ← readFraction? cs
    let (exponent, cs) ← readExponent? cs
    let number ← numberOf? negative whole fraction exponent
    pure (number, cs)

/-! ### Values -/

/-- Drops the given characters from the front, if they are there. -/
def expect? : (word cs : List Char) → Option (List Char)
  | [], cs => some cs
  | c :: word, d :: cs => if c = d then expect? word cs else none
  | _ :: _, [] => none

mutual
/-- Reads a value that starts at the first character. -/
def readValue (depth : Nat) : (fuel : Nat) → List Char → Option (Json × List Char)
  | 0, _ => none
  | fuel + 1, cs =>
    match cs with
    | 'n' :: _ => (expect? ['n', 'u', 'l', 'l'] cs).map (.null, ·)
    | 't' :: _ => (expect? ['t', 'r', 'u', 'e'] cs).map (.bool true, ·)
    | 'f' :: _ => (expect? ['f', 'a', 'l', 's', 'e'] cs).map (.bool false, ·)
    | '"' :: rest => (readString [] rest).map fun (s, rest) => (.string s, rest)
    | '[' :: rest =>
      if depth = 0 then none
      else
        match skipSpace rest with
        | ']' :: rest => some (.array [], rest)
        | rest => readItems (depth - 1) fuel [] rest
    | '\x7b' :: rest =>
      if depth = 0 then none
      else
        match skipSpace rest with
        | '\x7d' :: rest => some (.object [], rest)
        | rest => readEntries (depth - 1) fuel [] rest
    | _ => (readNumber cs).map fun (n, rest) => (.number n, rest)

/-- Reads the items of an array from the next one on; `read` holds the earlier ones, last first. -/
def readItems (depth : Nat) : (fuel : Nat) → (read : List Json) → List Char →
    Option (Json × List Char)
  | 0, _, _ => none
  | fuel + 1, read, cs =>
    match readValue depth fuel cs with
    | none => none
    | some (item, rest) =>
      match skipSpace rest with
      | ',' :: rest => readItems depth fuel (item :: read) (skipSpace rest)
      | ']' :: rest => some (.array (item :: read).reverse, rest)
      | _ => none

/-- Reads the entries of an object from the next key on. -/
def readEntries (depth : Nat) : (fuel : Nat) → (read : Fields) → List Char →
    Option (Json × List Char)
  | 0, _, _ => none
  | fuel + 1, read, cs =>
    match cs with
    | '"' :: rest =>
      match readString [] rest with
      | none => none
      | some (key, rest) =>
        match skipSpace rest with
        | ':' :: rest =>
          match readValue depth fuel (skipSpace rest) with
          | none => none
          | some (value, rest) =>
            match skipSpace rest with
            | ',' :: rest => readEntries depth fuel (Assoc.insert key value read) (skipSpace rest)
            | '\x7d' :: rest => some (.object (Assoc.insert key value read), rest)
            | _ => none
        | _ => none
    | _ => none
end

/-- Reads a text that is one value. Every character costs at most two nested calls, which bounds the
fuel. -/
def parse (text : String) : Option Json :=
  let cs := skipSpace text.toList
  match readValue maxDepth (2 * cs.length + 2) cs with
  | some (value, rest) => if (skipSpace rest).isEmpty then some value else none
  | none => none

end SearchStore.Json
