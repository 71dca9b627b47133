/-!
# Percent encoding

A character that may not stand in some part of a URL is written as its bytes in UTF-8, each as a percent sign
with two upper-case hexadecimal digits. Which characters may stand is up to the part.
-/

namespace SearchStore.Text

/-- The upper-case hexadecimal digit of a number below 16. -/
def upperHexDigit (n : Nat) : Char :=
  if n < 10 then Char.ofNat (n + 48) else Char.ofNat (n + 55)

/-- A byte as a percent sign and two digits. -/
def percentByte (b : UInt8) : List Char :=
  ['%', upperHexDigit (b.toNat / 16), upperHexDigit (b.toNat % 16)]

/-- A character as its escaped bytes. -/
def percentChar (c : Char) : List Char :=
  (String.utf8EncodeChar c).flatMap percentByte

/-- The text with every character escaped that `keep` does not hold of. -/
def percentEncode (keep : Char → Bool) (s : String) : String :=
  String.ofList (s.toList.flatMap fun c => if keep c then [c] else percentChar c)

/-- The value of a hexadecimal digit. -/
def hexDigitValue? (c : Char) : Option Nat :=
  if c.isDigit then some (c.toNat - '0'.toNat)
  else if 'a' ≤ c.toLower && c.toLower ≤ 'f' then some (c.toLower.toNat - 'a'.toNat + 10)
  else none

/-- The bytes of a text, where a percent sign with two digits stands for one byte. -/
def percentBytes : List Char → List UInt8
  | [] => []
  | '%' :: a :: b :: rest =>
    match hexDigitValue? a, hexDigitValue? b with
    | some high, some low => UInt8.ofNat (16 * high + low) :: percentBytes rest
    | _, _ => String.utf8EncodeChar '%' ++ percentBytes (a :: b :: rest)
  | c :: rest => String.utf8EncodeChar c ++ percentBytes rest

/-- The text without escapes, none if the bytes are not UTF-8. -/
def percentDecode? (cs : List Char) : Option (List Char) :=
  (String.fromUTF8? ⟨(percentBytes cs).toArray⟩).map String.toList

/-! ### Parts of a URL -/

/-- Whether a character is printable ASCII and not a space. -/
def isGraphic (c : Char) : Bool := 0x20 < c.toNat && c.toNat < 0x7F

/-- The graphic characters that may not stand in the path of a URL. -/
def pathReserved : List Char := ['"', '#', '<', '>', '?', '\x60', '\x7b', '\x7d']

/-- Whether a character may stand in the path of a URL. -/
def isPathChar (c : Char) : Bool := isGraphic c && !pathReserved.contains c

/-- Whether a character may stand in one segment of a path: not a slash, and not a percent sign, which would
start an escape. A comma stands between the names of a list. -/
def isSegmentChar (c : Char) : Bool := isPathChar c && c != '/' && c != '%'

/-- The text as a segment of a path. -/
def segment (s : String) : String := percentEncode isSegmentChar s

/-- Whether a character may stand in a form field as it is. -/
def isFormChar (c : Char) : Bool := c.isAlphanum || ['*', '-', '.', '_'].contains c

/-- The text as a name or a value of a form, with a plus sign for a space. -/
def formText (s : String) : String :=
  String.ofList (s.toList.flatMap fun c =>
    if isFormChar c then [c] else if c = ' ' then ['+'] else percentChar c)

end SearchStore.Text
