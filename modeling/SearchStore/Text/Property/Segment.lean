import SearchStore.Text.Property.Binary
import SearchStore.Text.Property.Script

/-!
# Segmentation properties

How a character takes part in the rules for the boundaries of graphemes, words and sentences. Most classes are
derived from other properties; the short ones are listed.
-/

namespace SearchStore.Text.Property

/-- Marks that the character before them is shown with. -/
def extending : CharSet := graphemeExtend.union (categories ["Mc"])

/-- The syllables of Hangul without a final consonant. -/
def openSyllables : CharSet :=
  .ofRanges ((List.range 399).map fun i => (0xAC00 + 28 * i, 0xAC00 + 28 * i))

/-! ### Graphemes -/

/-- Marks with a width of their own that do not belong to the character before them. -/
def freeMarks : CharSet :=
  .ofTable
    ["102B-102C 1038 1062-1064 1067-106D 1083 1087-108C 108F 109A-109C 1A61 1A63-1A64 AA7B AA7D",
     "11720-11721"]

/-- Characters that break graphemes on either side. -/
def graphemeControl : CharSet :=
  (CharSet.unions
    [categories ["Zl", "Zp", "Cc", "Cf"], (categories ["Cn"]).inter defaultIgnorable]).diff
    (.unions [.ofTable ["A D 200C-200D"], listed "prependedconcatenationmark", graphemeExtend])

/-- The code points of a class of grapheme boundaries. -/
def graphemeBreak? : String → Option CharSet
  | "cr" => some (.ofTable ["D"])
  | "lf" => some (.ofTable ["A"])
  | "control" => some graphemeControl
  | "extend" => some (graphemeExtend.union (listed "emojimodifier"))
  | "zwj" => some (.ofTable ["200D"])
  | "regionalindicator" => some (listed "regionalindicator")
  | "prepend" =>
    some
      (.ofTable
        ["600-605 6DD 70F 890-891 8E2 D4E 110BD 110CD 111C2-111C3 113D1 1193F 11941 11A3A",
         "11A84-11A89 11D46 11F02"])
  | "spacingmark" =>
    some (((categories ["Mc"]).union (.ofTable ["E33 EB3"])).diff (graphemeExtend.union freeMarks))
  | "l" => some (.ofTable ["1100-115F A960-A97C"])
  | "v" => some (.ofTable ["1160-11A7 D7B0-D7C6 16D63 16D67-16D6A"])
  | "t" => some (.ofTable ["11A8-11FF D7CB-D7FB"])
  | "lv" => some openSyllables
  | "lvt" => some ((CharSet.ofTable ["AC00-D7A3"]).diff openSyllables)
  | _ => none

/-! ### Words -/

/-- The characters of scripts that are written without spaces between words. -/
def unspaced : CharSet :=
  .unions
    (["thai", "lao", "khmer", "myanmar", "taile", "newtailue", "taitham", "taiviet", "ahom"].filterMap
      script?)

/-- The characters of Katakana, with those that it shares. -/
def katakana : CharSet :=
  ((script? "katakana").getD .empty).union (.ofTable ["3031-3035 309B-309C 30A0 30FC FF70"])

/-- The letters of Hebrew. -/
def hebrewLetter : CharSet := ((script? "hebrew").getD .empty).inter (categories ["Lo"])

/-- Signs in front of numbers. -/
def numberSigns : CharSet := .ofTable ["600-605 6DD 890-891 8E2 110BD 110CD"]

/-- Letters of scripts that are written with spaces between words. -/
def wordLetter : CharSet :=
  (CharSet.unions
    [alphabetic,
      .ofTable
        ["2C2-2C5 2D2-2D7 2DE-2DF 2E5-2EB 2ED 2EF-2FF 55A-55C 55E 58A 5F3 70F A708-A716",
         "A720-A721 A789-A78A AB5B"]]).diff
    (.unions
      [listed "ideographic", katakana, unspaced, (script? "hiragana").getD .empty, extending,
        hebrewLetter])

/-- The code points of a class of word boundaries. -/
def wordBreak? : String → Option CharSet
  | "cr" => some (.ofTable ["D"])
  | "lf" => some (.ofTable ["A"])
  | "newline" => some (.ofTable ["B-C 85 2028-2029"])
  | "extend" => some ((extending.union (listed "emojimodifier")).diff (.ofTable ["200D"]))
  | "zwj" => some (.ofTable ["200D"])
  | "format" =>
    some
      ((categories ["Cf"]).diff
        (.unions [.ofTable ["70F 200B-200D"], numberSigns, graphemeExtend]))
  | "katakana" => some katakana
  | "hebrewletter" => some hebrewLetter
  | "aletter" => some wordLetter
  | "singlequote" => some (.ofTable ["27"])
  | "doublequote" => some (.ofTable ["22"])
  | "midnumlet" => some (.ofTable ["2E 2018-2019 2024 FE52 FF07 FF0E"])
  | "midletter" => some (.ofTable ["3A B7 387 55F 5F4 2027 FE13 FE55 FF1A"])
  | "midnum" =>
    some (.ofTable ["2C 3B 37E 589 60C-60D 66C 7F8 2044 FE10 FE14 FE50 FE54 FF0C FF1B"])
  | "numeric" => some (.unions [categories ["Nd"], .ofTable ["66B"], numberSigns])
  | "extendnumlet" => some ((categories ["Pc"]).union (.ofTable ["202F"]))
  | "regionalindicator" => some (listed "regionalindicator")
  | "wsegspace" => some (.ofTable ["20 1680 2000-2006 2008-200A 205F 3000"])
  | _ => none

/-! ### Sentences -/

/-- The letters of Georgian, whose two kinds do not mark the starts of sentences. -/
def georgianLetters : CharSet := .ofTable ["10D0-10FA 10FD-10FF 1C90-1CBA 1CBD-1CBF"]

/-- Small letters in sentences. -/
def sentenceLower : CharSet := lowercase.diff (graphemeExtend.union georgianLetters)

/-- Capital letters in sentences. -/
def sentenceUpper : CharSet :=
  (uppercase.union (categories ["Lt"])).diff (graphemeExtend.union georgianLetters)

/-- Full stops, which need not end a sentence. -/
def ambiguousStops : CharSet := .ofTable ["2E 2024 FE52 FF0E"]

/-- The code points of a class of sentence boundaries. -/
def sentenceBreak? : String → Option CharSet
  | "cr" => some (.ofTable ["D"])
  | "lf" => some (.ofTable ["A"])
  | "sep" => some (.ofTable ["85 2028-2029"])
  | "extend" => some (extending.union (.ofTable ["200D"]))
  | "format" => some ((categories ["Cf"]).diff (graphemeExtend.union (.ofTable ["200D"])))
  | "sp" => some (CharSet.blank.diff (.ofTable ["A D 85 2028-2029"]))
  | "lower" => some sentenceLower
  | "upper" => some sentenceUpper
  | "oletter" =>
    some
      ((alphabetic.union (.ofTable ["5F3"])).diff
        (.unions [sentenceLower, sentenceUpper, extending]))
  | "numeric" => some ((categories ["Nd"]).union (.ofTable ["66B-66C"]))
  | "aterm" => some ambiguousStops
  | "scontinue" =>
    some
      (.ofTable
        ["2C-2D 3A-3B 37E 55D 60C-60D 7F8 1802 1808 2013-2014 3001 FE10-FE11 FE13-FE14 FE31-FE32",
         "FE50-FE51 FE54-FE55 FE58 FE63 FF0C-FF0D FF1A-FF1B FF64"])
  | "sterm" => some ((listed "sentenceterminal").diff ambiguousStops)
  | "close" =>
    some
      ((categories ["Ps", "Pe", "Pi", "Pf"]).union
        (.ofTable ["22 27 275B-2760 2E00-2E01 2E06-2E08 2E0B 1F676-1F678"]))
  | _ => none

/-! ### Names -/

/-- The short names of classes of grapheme boundaries. -/
def graphemeBreakNames : List (String × String) :=
  [("cn", "control"), ("ex", "extend"), ("pp", "prepend"), ("ri", "regionalindicator"),
   ("sm", "spacingmark")]

/-- The short names of classes of word boundaries. -/
def wordBreakNames : List (String × String) :=
  [("dq", "doublequote"), ("ex", "extendnumlet"), ("fo", "format"), ("hl", "hebrewletter"),
   ("ka", "katakana"), ("le", "aletter"), ("mb", "midnumlet"), ("ml", "midletter"), ("mn", "midnum"),
   ("nl", "newline"), ("nu", "numeric"), ("ri", "regionalindicator"), ("sq", "singlequote")]

/-- The short names of classes of sentence boundaries. -/
def sentenceBreakNames : List (String × String) :=
  [("at", "aterm"), ("cl", "close"), ("ex", "extend"), ("fo", "format"), ("le", "oletter"),
   ("lo", "lower"), ("nu", "numeric"), ("sc", "scontinue"), ("se", "sep"), ("st", "sterm"),
   ("up", "upper")]

/-- The name of a class, long or short, in its long form. -/
def longName (names : List (String × String)) (name : String) : String :=
  (names.lookup name).getD name

end SearchStore.Text.Property
