/-!
# Ranges of code points in UTF-8

The encodings of a range of code points, as sequences of ranges of bytes: a text of bytes belongs to the
range if, for one of the sequences, each byte lies in the range at its place.
-/

namespace SearchStore.Text.Utf8

/-- A sequence of ranges of bytes. -/
abbrev ByteRanges := List (Nat × Nat)

/-- The numbers from `low` to `high` as sequences of ranges of digits: one leading digit and `count` further
ones to base 64. -/
def digitRanges : (count : Nat) → (low high : Nat) → List ByteRanges
  | 0, low, high => [[(low, high)]]
  | count + 1, low, high =>
    let unit := Nat.pow 64 (count + 1)
    let first := low / unit
    let last := high / unit
    let led (a b : Nat) (digits : List ByteRanges) : List ByteRanges := digits.map ((a, b) :: ·)
    if first = last then led first first (digitRanges count (low % unit) (high % unit))
    else
      let cutFirst := low % unit ≠ 0
      let cutLast := high % unit ≠ unit - 1
      let start := if cutFirst then first + 1 else first
      let stop := if cutLast then last else last + 1
      (if cutFirst then led first first (digitRanges count (low % unit) (unit - 1)) else [])
        ++ (if start < stop then led start (stop - 1) (digitRanges count 0 (unit - 1)) else [])
        ++ (if cutLast then led last last (digitRanges count 0 (high % unit)) else [])

/-- The code points that are encoded in the same number of bytes, the surrogates left out: the first and the
last of them, how many bytes follow the leading one, and what is added to the leading digit. -/
def blocks : List (Nat × Nat × Nat × Nat) :=
  [(0, 0x7F, 0, 0), (0x80, 0x7FF, 1, 0xC0), (0x800, 0xD7FF, 2, 0xE0), (0xE000, 0xFFFF, 2, 0xE0),
   (0x10000, 0x10FFFF, 3, 0xF0)]

/-- The bytes of digits: the leading one, and the continuation bytes. -/
def bytesOf (lead : Nat) : ByteRanges → ByteRanges
  | [] => []
  | (low, high) :: rest =>
    (low + lead, high + lead) :: rest.map fun (low, high) => (low + 0x80, high + 0x80)

/-- The encodings of the code points from `low` to `high`, in ascending order. -/
def byteRanges (low high : Nat) : List ByteRanges :=
  blocks.flatMap fun (first, last, count, lead) =>
    let low := max low first
    let high := min high last
    if low ≤ high then (digitRanges count low high).map (bytesOf lead) else []

end SearchStore.Text.Utf8
