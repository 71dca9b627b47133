import SearchStore.Json.Printer
import SearchStore.Text.List
import SearchStore.Text.Quoted

/-!
# Decoding records

A decoder reads a typed value from a JSON value or says what is wrong with it. Records are read from
objects, whose unknown keys are ignored, or from arrays with the fields in the order in which they are
declared. The fields that are there are looked at in the order in which they stand, so the first bad one
wins; fields that are missing are reported afterwards, in the order of declaration.
-/

namespace SearchStore.Json

/-- What is wrong with a value. -/
inductive DecodeError where
  | invalidType (found : Json) (expected : String)
  | invalidValue (found : Json) (expected : String)
  | invalidLength (length : Nat) (expected : String)
  | missingField (name : String)
  | unknownVariant (name : String) (names : List String)
  | fault (text : String)
deriving DecidableEq, Repr

/-- A value in an error message. -/
def describe : Json → String
  | .null => "null"
  | .bool b => "boolean \x60" ++ (Json.bool b).render ++ "\x60"
  | .number (.binary x) => "floating point \x60" ++ (Number.binary x).render ++ "\x60"
  | .number n => "integer \x60" ++ n.render ++ "\x60"
  | .string s => "string " ++ Text.quoted s
  | .array _ => "sequence"
  | .object _ => "map"

/-- A name in an error message. -/
def ticked (name : String) : String := "\x60" ++ name ++ "\x60"

/-- The names to choose from in an error message. -/
def choices : List String → String
  | [name] => ticked name
  | [name, other] => ticked name ++ " or " ++ ticked other
  | names => "one of " ++ Text.join ", " (names.map ticked)

/-- The text of a decoding error. -/
def DecodeError.message : DecodeError → String
  | .invalidType found expected => "invalid type: " ++ found.describe ++ ", expected " ++ expected
  | .invalidValue found expected => "invalid value: " ++ found.describe ++ ", expected " ++ expected
  | .invalidLength length expected =>
    "invalid length " ++ toString length ++ ", expected " ++ expected
  | .missingField name => "missing field " ++ ticked name
  | .unknownVariant name names => "unknown variant " ++ ticked name ++ ", expected " ++ choices names
  | .fault text => text

/-- A reader of typed values. -/
abbrev Decoder (α : Type) := Json → Except DecodeError α

namespace Decoder

variable {α : Type}

/-- Any value. -/
def value : Decoder Json := .ok

/-- A string. -/
def string : Decoder String
  | .string s => .ok s
  | found => .error (.invalidType found "a string")

/-- A truth value. -/
def bool : Decoder Bool
  | .bool b => .ok b
  | found => .error (.invalidType found "a boolean")

/-- An integer from `0` to `2^64 - 1`. -/
def natural : Decoder UInt64
  | .number (.natural n) => .ok n
  | .number (.negative n) => .error (.invalidValue (.number (.negative n)) "u64")
  | found => .error (.invalidType found "u64")

/-- The entries of an object. -/
def object : Decoder Fields
  | .object fields => .ok fields
  | found => .error (.invalidType found "a map")

/-- An array of values. -/
def list (item : Decoder α) : Decoder (List α)
  | .array items => items.mapM item
  | found => .error (.invalidType found "a sequence")

/-- An object of values. -/
def map (item : Decoder α) : Decoder (List (String × α))
  | .object fields => fields.mapM fun (key, value) => do .ok (key, ← item value)
  | found => .error (.invalidType found "a map")

/-- A value or `null`. -/
def optional (item : Decoder α) : Decoder (Option α)
  | .null => .ok none
  | found => (item found).map some

/-- A name with what belongs to it: a text is a name alone, and an object has a name as its only key. -/
def tagged : Decoder (String × Option Json)
  | .string name => .ok (name, none)
  | .object [(name, content)] => .ok (name, some content)
  | .object fields => .error (.invalidValue (.object fields) "map with a single key")
  | found => .error (.invalidType found "string or map")

/-- A name of a list, to which nothing belongs but `null`. -/
def oneOf (names : List (String × α)) : Decoder α := fun found => do
  let (name, content) ← tagged found
  match Assoc.get? name names, content with
  | none, _ => .error (.unknownVariant name (Assoc.keys names))
  | some value, none | some value, some .null => .ok value
  | some _, some other => .error (.invalidType other "unit")

end Decoder

/-! ### Records -/

/-- A field of a record: how it is read, and its value when it is missing. -/
structure Field (α : Type) where
  name : String
  decode : Decoder α
  fallback : Option α

/-- What reading a record needs to know of a field. -/
structure FieldRule where
  name : String
  required : Bool
  check : Decoder Unit

/-- The rule of a field. -/
def Field.rule {α : Type} (field : Field α) : FieldRule :=
  { name := field.name
    required := field.fallback.isNone
    check := fun value => (field.decode value).map fun _ => () }

/-- A record: its name and its fields in the order of declaration. -/
structure RecordShape where
  name : String
  fields : List FieldRule

namespace RecordShape

/-- Checks the known entries of an object in order. -/
def checkEntries (shape : RecordShape) (entries : Fields) : Except DecodeError Unit :=
  entries.forM fun (key, value) =>
    match shape.fields.find? fun rule => rule.name == key with
    | some rule => rule.check value
    | none => .ok ()

/-- Checks that no required field is missing. -/
def checkPresent (shape : RecordShape) (entries : Fields) : Except DecodeError Unit :=
  shape.fields.forM fun rule =>
    if rule.required && !Assoc.contains rule.name entries then .error (.missingField rule.name)
    else .ok ()

/-- The number of fields in words. -/
def elements (shape : RecordShape) : String :=
  "struct " ++ shape.name ++ " with " ++ toString shape.fields.length ++
    if shape.fields.length = 1 then " element" else " elements"

/-- Pairs the items of an array with the fields, checking each; `position` counts the items taken. -/
def pairItems (shape : RecordShape) (length : Nat) :
    (position : Nat) → List FieldRule → List Json → Except DecodeError Fields
  | _, [], [] => .ok []
  | _, [], _ :: _ => .error (.invalidLength length "fewer elements in array")
  | position, rule :: rules, [] =>
    if rule.required then .error (.invalidLength position shape.elements)
    else pairItems shape length (position + 1) rules []
  | position, rule :: rules, item :: items => do
    rule.check item
    let rest ← pairItems shape length (position + 1) rules items
    .ok ((rule.name, item) :: rest)

/-- The checked entries of a record. -/
def entries (shape : RecordShape) : Json → Except DecodeError Fields
  | .object fields => do
    shape.checkEntries fields
    shape.checkPresent fields
    .ok fields
  | .array items => pairItems shape items.length 0 shape.fields items
  | found => .error (.invalidType found ("struct " ++ shape.name))

end RecordShape

/-- The value of a field among the entries of a record. -/
def Field.read {α : Type} (field : Field α) (entries : Fields) : Except DecodeError α :=
  match Assoc.get? field.name entries with
  | some value => field.decode value
  | none =>
    match field.fallback with
    | some value => .ok value
    | none => .error (.missingField field.name)

end SearchStore.Json
