import SearchStore.Text.Property.Category

/-!
# The direction of a text

Letters are written to the right or to the left; numbers, marks and signs follow what stands around them. A label
of a name that holds both is hard to read, so that `isOneWay` asks for one direction, and for letters or digits at
the ends that show it.
-/

namespace SearchStore.Text

/-- What a character says of the direction of the text around it. -/
inductive Direction where
  /-- A letter that is written from left to right. -/
  | rightwards
  /-- A letter that is written from right to left. -/
  | leftwards
  | europeanDigit
  | arabicDigit
  /-- A mark on the character in front. -/
  | mark
  /-- A sign that stands in texts of both directions. -/
  | neutral
deriving DecidableEq, Repr

namespace Direction

/-- The digits of Europe, and those that are written like them. -/
def europeanDigits : CharSet := .ofTable ["30-39 6F0-6F9 102E1-102FB"]

/-- The digits of Arabic and of scripts close to it. -/
def arabicDigits : CharSet := .ofTable ["660-669 66B-66C 10D30-10D39 10D40-10D49 10E60-10E7E"]

/-- The signs among the letters that are written from right to left. -/
def innerSigns : CharSet :=
  .ofTable [
    "606-607 609-60A 60C 60E-60F 66A 6DE 6E9 7F6-7F9 FB29 FD3E-FD4F FDCF FDFD-FDFF 1091F",
    "10B39-10B3F 10D6E 10D8E-10D8F 1EEF0-1EEF1"]

/-- The blocks of scripts that are written from right to left. -/
def leftwardBlocks : CharSet :=
  .ofTable ["590-8FF FB1D-FDFF FE70-FEFF 10800-10FFF 1E800-1EFFF"]

/-- Marks that take no place of their own. -/
def marks : CharSet := Property.categories ["Mn", "Me"]

/-- Punctuation and symbols. -/
def signs : CharSet :=
  Property.categories ["Pc", "Pd", "Ps", "Pe", "Pi", "Pf", "Po", "Sm", "Sc", "Sk", "So"]

/-- The direction that a character tells. -/
def ofChar (c : Char) : Direction :=
  if europeanDigits.holds c then .europeanDigit
  else if arabicDigits.holds c then .arabicDigit
  else if marks.holds c then .mark
  else if innerSigns.holds c then .neutral
  else if leftwardBlocks.holds c then .leftwards
  else if signs.holds c then .neutral
  else .rightwards

/-- Whether a text with such a character is written from right to left in part. -/
def isLeftward (d : Direction) : Bool := d = .leftwards || d = .arabicDigit

end Direction

open Direction in
/-- Whether a label is written in one direction. Its first character is a letter and gives the direction; the last
one, not counting marks, is a letter of that direction or a digit. Digits of both kinds do not go together. -/
def isOneWay (label : List Char) : Bool :=
  let directions := label.map ofChar
  let last? := (directions.reverse.dropWhile (· = .mark)).head?
  match directions.head? with
  | none => true
  | some .rightwards =>
    (last? = some .rightwards || last? = some .europeanDigit)
      && directions.all fun d => !d.isLeftward
  | some .leftwards =>
    (last? = some .leftwards || last? = some .europeanDigit || last? = some .arabicDigit)
      && directions.all (· ≠ .rightwards)
      && !(directions.contains .europeanDigit && directions.contains .arabicDigit)
  | some _ => false

end SearchStore.Text
