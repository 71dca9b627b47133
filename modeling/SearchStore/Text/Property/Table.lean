import SearchStore.Text.CharSet
import SearchStore.Text.List

/-!
# Tables of code points

The properties of characters are written as tables: lines of code points and ranges of them in hexadecimal, in
ascending order, with a space between two entries. An entry `100-12E/2` stands for every second code
point of the range.
-/

namespace SearchStore.CharSet

/-- The value of a hexadecimal digit. -/
def digitValue (c : Char) : Nat :=
  if c.isDigit then c.toNat - '0'.toNat else c.toNat - 'A'.toNat + 10

/-- The value of a number in hexadecimal. -/
def hexValue (digits : String) : Nat :=
  digits.toList.foldl (fun n c => 16 * n + digitValue c) 0

/-- The ranges of one entry of a table. -/
def entryRanges (entry : String) : List (Nat × Nat) :=
  match (Text.split '/' entry).map fun part => (Text.split '-' part).map hexValue with
  | [[n]] => [(n, n)]
  | [[low, high]] => [(low, high)]
  | [[low, high], _] =>
    (List.range ((high - low) / 2 + 1)).map fun i => (low + 2 * i, low + 2 * i)
  | _ => []

/-- The set that the lines of a table list. -/
def ofTable (lines : List String) : CharSet :=
  ofRanges ((lines.flatMap (Text.split ' ')).flatMap entryRanges)

end SearchStore.CharSet
