import SearchStore.Json.Decode
import SearchStore.Mapping.Basic

/-!
# Types of stored documents

A stored document names its type under `@type`. A registry holds a factory for each type, which makes an
item of the other fields; as a mapper it removes the name of the type and hands the rest to its factory.
-/

namespace SearchStore

/-- The field of a document that names its type. -/
def typeKey : String := "@type"

/-- Makes an item of the fields of a document. -/
abbrev Factory (ι : Type) := Fields → Except Error ι

/-- The factory that decodes the fields, and blames the document on failure. -/
def Factory.ofDecoder {ι : Type} (type : String) (decode : Json.Decoder ι) : Factory ι :=
  fun fields =>
    (decode (.object fields)).mapError fun fault =>
      let id := ((Assoc.get? "identifier" fields).bind Json.asString?).getD ""
      .mapping (.invalidDocument id (type ++ ": " ++ fault.message))

/-- Factories by the name of their type, in the order of names. -/
structure Registry (ι : Type) where
  factories : List (String × Factory ι) := []

namespace Registry

variable {ι : Type}

/-- The registry with a factory for a type, instead of the one it had. -/
def register (type : String) (factory : Factory ι) (r : Registry ι) : Registry ι :=
  ⟨Assoc.insertSorted type factory r.factories⟩

/-- The registry with a type that is decoded from its fields. -/
def registerDecoder (type : String) (decode : Json.Decoder ι) (r : Registry ι) : Registry ι :=
  r.register type (Factory.ofDecoder type decode)

/-- The names of the types. -/
def types (r : Registry ι) : List String := Assoc.keys r.factories

/-- The number of types. -/
def size (r : Registry ι) : Nat := r.factories.length

/-- Whether there is no type. -/
def isEmpty (r : Registry ι) : Bool := r.factories.isEmpty

/-- Whether a type is registered. -/
def contains (r : Registry ι) (type : String) : Bool := Assoc.contains type r.factories

/-- The factory of a type. -/
def factory (r : Registry ι) (type : String) : Except Error (Factory ι) :=
  match Assoc.get? type r.factories with
  | some factory => .ok factory
  | none => .error (.mapping (.unknownType type))

/-- The item of a type with the given fields. -/
def create (r : Registry ι) (type : String) (fields : Fields) : Except Error ι := do
  (← r.factory type) fields

/-- Makes items of documents by their types. -/
def mapper (r : Registry ι) : Mapper ι where
  document document :=
    let id := identifierOf document
    match document.get? "_source" with
    | some (.object fields) =>
      match Assoc.get? typeKey fields with
      | some (.string type) =>
        if type = "" then .error (.mapping (.missingType id))
        else r.create type (Assoc.swapRemove typeKey fields)
      | _ => .error (.mapping (.missingType id))
    | _ => .error (.mapping (.invalidDocument id "document has no _source object"))

end Registry

end SearchStore
