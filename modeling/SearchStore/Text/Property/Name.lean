import SearchStore.Text.Property.Age
import SearchStore.Text.Property.Segment

/-!
# Properties by name

The name of a property is read loosely: case, blanks, hyphens and underscores do not matter, nor does `is`
in front. A name alone stands for a binary property, a general category or a script; with a value it is one
of the properties that have values, as in `Script=Greek`.
-/

namespace SearchStore.Text.Property

/-- The characters of a name that matter, as small letters. -/
def significant (name : List Char) : List Char :=
  (name.filter fun c => c.toNat < 128 && c != ' ' && c != '_' && c != '-').map Char.toLower

/-- A name without what does not matter in it. The name `isc`, which is not that of the category `c`, is kept
whole. -/
def looseName (name : List Char) : String :=
  match name with
  | i :: s :: rest =>
    if i.toLower = 'i' && s.toLower = 's' then
      if significant rest = ['c'] then "isc" else String.ofList (significant rest)
    else String.ofList (significant name)
  | _ => String.ofList (significant name)

/-- The code points that a name stands for. The names `sc` and `lc` are those of categories, though
properties have them too. -/
def named? (name : List Char) : Option CharSet :=
  let name := looseName name
  binary? name <|> category? name <|> script? name

/-- The code points that have a value of a property. -/
def valued? (name value : List Char) : Option CharSet :=
  let value := looseName value
  match looseName name with
  | "gc" => category? value
  | "generalcategory" => category? value
  | "sc" => script? value
  | "script" => script? value
  | "scx" => scriptExtension? value
  | "scriptextensions" => scriptExtension? value
  | "age" => age? value
  | "gcb" => graphemeBreak? (longName graphemeBreakNames value)
  | "graphemeclusterbreak" => graphemeBreak? (longName graphemeBreakNames value)
  | "wb" => wordBreak? (longName wordBreakNames value)
  | "wordbreak" => wordBreak? (longName wordBreakNames value)
  | "sb" => sentenceBreak? (longName sentenceBreakNames value)
  | "sentencebreak" => sentenceBreak? (longName sentenceBreakNames value)
  | _ => none

/-- The characters in front of the first place where `mark` stands, and those behind it. -/
def cutAt? (mark : List Char) : List Char → Option (List Char × List Char)
  | [] => none
  | c :: rest =>
    if mark.isPrefixOf (c :: rest) then some ([], (c :: rest).drop mark.length)
    else (cutAt? mark rest).map fun (front, behind) => (c :: front, behind)

/-- The code points that a description of a property stands for: a name, or a name and a value. -/
def described? (text : List Char) : Option CharSet :=
  match cutAt? ['!', '='] text <|> cutAt? [':'] text <|> cutAt? ['='] text with
  | some (name, value) => valued? name value
  | none => named? text

end SearchStore.Text.Property
