import SearchStore.Json.Basic
import SearchStore.Decimal.Layout

/-!
# JSON text

Compact text of a value: no spaces, non-ASCII characters verbatim, and inside strings only the
quote, the backslash and the control characters below U+0020 escaped.
-/

namespace SearchStore.Json

/-- Floating point numbers have the fewest digits that read back, a tie going to the even digit.
They are positional for decimal exponents from -5 to 15, and always carry `.0` or an exponent. -/
def numberLayout : Decimal.Layout :=
  { tie := .toEven, positional := fun e => -5 ≤ e && e < 16, pointZero := true }

/-- The lower-case hexadecimal digit of a number below 16. -/
def hexDigit (n : Nat) : Char :=
  Nat.digitChar n

/-- A character inside a quoted string. -/
def escapeChar (c : Char) : List Char :=
  if c = '"' then ['\\', '"']
  else if c = '\\' then ['\\', '\\']
  else if c = '\n' then ['\\', 'n']
  else if c = '\r' then ['\\', 'r']
  else if c = '\t' then ['\\', 't']
  else if c.toNat = 8 then ['\\', 'b']
  else if c.toNat = 12 then ['\\', 'f']
  else if c.toNat < 0x20 then
    ['\\', 'u', '0', '0', hexDigit (c.toNat / 16), hexDigit (c.toNat % 16)]
  else [c]

/-- A string with its quotes. -/
def quote (s : String) : String :=
  String.ofList ('"' :: s.toList.flatMap escapeChar ++ ['"'])

end SearchStore.Json

namespace SearchStore

/-- The text of a number. -/
def Number.render : Number → String
  | .natural n => toString n.toNat
  | .negative n => "-" ++ toString (n.val + 1)
  | .binary x => Json.numberLayout.render x

namespace Json

mutual
/-- The compact text of a value. -/
def render : Json → String
  | .null => "null"
  | .bool true => "true"
  | .bool false => "false"
  | .number n => n.render
  | .string s => quote s
  | .array items => "[" ++ renderItems items ++ "]"
  | .object fields => "\x7b" ++ renderFields fields ++ "\x7d"

/-- The items of an array with commas between them. -/
def renderItems : List Json → String
  | [] => ""
  | [item] => render item
  | item :: next :: rest => render item ++ "," ++ renderItems (next :: rest)

/-- The entries of an object with commas between them. -/
def renderFields : List (String × Json) → String
  | [] => ""
  | [(key, value)] => quote key ++ ":" ++ render value
  | (key, value) :: next :: rest =>
    quote key ++ ":" ++ render value ++ "," ++ renderFields (next :: rest)
end

end SearchStore.Json
