import SearchStore.Json.Decode
import SearchStore.Text.List

/-!
# Selections of indices and types

A selection is a list of names of indices or types. It is given as text with commas, or as a list of
names; names are trimmed, and blank ones are dropped.
-/

namespace SearchStore

/-- The name that selects everything. -/
def allName : String := "_all"

/-- A list of index or type names. -/
structure Selection where
  names : List String
deriving DecidableEq, Repr, Inhabited

namespace Selection

/-- The selection of the given names. -/
def ofNames (names : List String) : Selection :=
  ⟨(names.map Text.trim).filter fun name => name ≠ ""⟩

/-- The selection that a text with commas names. -/
def parse (text : String) : Selection :=
  ofNames (Text.split ',' text)

/-- The selection of everything. -/
def all : Selection := ⟨[allName]⟩

/-- Whether no name is selected. -/
def isEmpty (s : Selection) : Bool := s.names.isEmpty

/-- Whether this is the selection of everything. -/
def isAll (s : Selection) : Bool := s.names == [allName]

/-- The number of names. -/
def size (s : Selection) : Nat := s.names.length

/-- The names with commas between them. -/
def render (s : Selection) : String := Text.join "," s.names

/-- The names as a list, the form of requests and of stored configurations. -/
def toJson (s : Selection) : Json := Json.strings s.names

/-- Reads a text with commas or a list of names. Why a value is neither is not told. -/
def decode : Json.Decoder Selection
  | .string text => .ok (parse text)
  | found =>
    match Json.Decoder.list Json.Decoder.string found with
    | .ok names => .ok (ofNames names)
    | .error _ => .error (.fault "data did not match any variant of untagged enum Raw")

/-- The field of a record for a selection that may be left out. -/
def field (name : String) : Json.Field (Option Selection) :=
  { name, decode := Json.Decoder.optional decode, fallback := some none }

end Selection

end SearchStore
