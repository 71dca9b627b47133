import SearchStore.Text.Direction
import SearchStore.Text.Folding
import SearchStore.Text.List
import SearchStore.Text.Punycode

/-!
# Domain names

A domain name is brought into the form in which it is looked up: without differences of case, and with labels
beyond ASCII in Punycode. Characters that no domain name may hold, labels that are not the Punycode that they are
marked as, and labels that are written in both directions make it invalid.
-/

namespace SearchStore.Http.DomainName

/-- The graphic ASCII characters that may not stand in a domain name. -/
def reserved : List Char :=
  ['%', '#', '/', ':', '<', '>', '?', '@', '[', '\\', ']', '^', '|']

/-- Whether an ASCII character may stand in a domain name. -/
def isAllowedAscii (c : Char) : Bool :=
  0x20 < c.toNat && c.toNat < 0x7F && !reserved.contains c

/-- Characters that count for nothing. -/
def ignored : CharSet :=
  .ofTable ["AD 34F 180B-180D 180F 200B 2060 2064 FE00-FE0F FEFF E0100-E01EF"]

/-- Full stops of other scripts. -/
def stops : CharSet := .ofTable ["3002 FF0E FF61"]

/-- Characters that are blank, control the text, or are not assigned. -/
def excluded : CharSet := Text.Property.categories ["Zs", "Zl", "Zp", "Cc", "Cf", "Co", "Cn"]

/-- Signs that stand for a text with a character in it that may not stand in a domain name, and signs that stand
for a missing character or for the layout of one. -/
def unfit : CharSet :=
  .ofTable [
    "A8 AF B4 B8 2D8-2DD 37A 384-385 1FBD 1FBF-1FC1 1FCD-1FCF 1FDD-1FDF 1FED-1FEE 1FFD-1FFE",
    "2017 2024-2026 203E 2047-2049 2100-2101 2105-2106 2488-249B 2A74 2FF0-2FFF 309B-309C 31EF",
    "33C2 33C7 33D8 FC5E-FC63 FDFA-FDFB FE12-FE13 FE16 FE19 FE30 FE47-FE4C FE52 FE55-FE56 FE5F",
    "FE64-FE65 FE68 FE6A-FE6B FE70 FE72 FE74 FE76 FE78 FE7A FE7C FE7E FFE3 FFFC-FFFD 1F100"]

/-- Characters that only follow others. -/
def marks : CharSet := Text.Property.categories ["Mn", "Mc", "Me"]

/-- The folded form of a character. The final sigma stays as it is. -/
def foldChar (c : Char) : Char :=
  if c = 'ς' then c else Char.ofNat ((Text.foldPairs.lookup c.toNat).getD c.toNat)

/-- What a character stands for in a domain name, none if it may not stand there. -/
def mapChar? (c : Char) : Option (List Char) :=
  if c.toNat < 128 then if isAllowedAscii c then some [c.toLower] else none
  else if ignored.holds c then some []
  else if stops.holds c then some ['.']
  else if 0xFF01 ≤ c.toNat && c.toNat ≤ 0xFF5E then
    let ascii := Char.ofNat (c.toNat - 0xFEE0)
    if isAllowedAscii ascii then some [ascii.toLower] else none
  else if c = 'İ' then some ['i', '\u0307']
  else if excluded.holds c || unfit.holds c then none
  else some [foldChar c]

/-- Whether a label beyond ASCII is in its final form. -/
def isFinal (label : List Char) : Bool :=
  label.any (128 ≤ ·.toNat) && !(label.head?.any marks.holds)
    && label.all fun c => mapChar? c = some [c]

/-- The mark of labels in Punycode. -/
def punycodeMark : List Char := ['x', 'n', '-', '-']

/-- A label as it is read, and as it is looked up. -/
structure Label where
  shown : List Char
  ascii : List Char
deriving DecidableEq, Repr

/-- The label that characters stand for, none if it is invalid. -/
def label? (label : List Char) : Option Label :=
  if punycodeMark.isPrefixOf label then
    match Text.Punycode.decode? (label.drop punycodeMark.length) with
    | some decoded => if isFinal decoded then some ⟨decoded, label⟩ else none
    | none => none
  else if label.all (·.toNat < 128) then some ⟨label, label⟩
  else if isFinal label then some ⟨label, punycodeMark ++ Text.Punycode.encode label⟩
  else none

/-- Whether the directions of labels fit together: if one is written from right to left, each of them has to be
written in one direction. -/
def areReadable (labels : List Label) : Bool :=
  !(labels.any fun label => label.shown.any fun c => (Text.Direction.ofChar c).isLeftward)
    || labels.all fun label => Text.isOneWay label.shown

/-- A domain name as it is looked up, none if it is invalid. -/
def ascii? (name : List Char) : Option (List Char) := do
  let mapped ← name.mapM mapChar?
  let labels ← (Text.splitChars '.' mapped.flatten).mapM label?
  if areReadable labels then some (['.'].intercalate (labels.map Label.ascii)) else none

end SearchStore.Http.DomainName
