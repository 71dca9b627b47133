/-!
# Blank text

The characters with the Unicode property `White_Space`, trimming, and the test for text that holds
nothing else.
-/

namespace SearchStore.Text

/-- Whether `c` lies in one of the closed ranges of code points. -/
def inRanges (ranges : List (Nat × Nat)) (c : Char) : Bool :=
  ranges.any fun range => range.1 ≤ c.toNat && c.toNat ≤ range.2

/-- The code points with the property `White_Space`. -/
def blankRanges : List (Nat × Nat) :=
  [(0x09, 0x0D), (0x20, 0x20), (0x85, 0x85), (0xA0, 0xA0), (0x1680, 0x1680), (0x2000, 0x200A),
   (0x2028, 0x2029), (0x202F, 0x202F), (0x205F, 0x205F), (0x3000, 0x3000)]

/-- Whether `c` has the property `White_Space`. -/
def isBlankChar (c : Char) : Bool :=
  inRanges blankRanges c

/-- The characters without the blank ones in front. -/
def trimLeft (cs : List Char) : List Char :=
  cs.dropWhile isBlankChar

/-- The characters without the blank ones at the end. -/
def trimRight (cs : List Char) : List Char :=
  (cs.reverse.dropWhile isBlankChar).reverse

/-- The text without blank characters at either end. -/
def trim (s : String) : String :=
  String.ofList (trimRight (trimLeft s.toList))

/-- Whether the text holds blank characters only. -/
def isBlank (s : String) : Bool :=
  s.toList.all isBlankChar

end SearchStore.Text
