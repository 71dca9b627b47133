import SearchStore.Error

/-!
# Mapping of engine answers

The engine answers with one document, with the hits of a search, or with the documents of a list of
identifiers. `documents?` picks the documents out of an answer, and `Mapper.answer` maps them all, in order:
one document that cannot be mapped fails the whole answer.
-/

namespace SearchStore

/-- The identifier of a document, empty if it has none. -/
def identifierOf (document : Json) : String :=
  ((document.get? "_id").bind Json.asString?).getD ""

/-- Whether a listed document was found. -/
def isFound (document : Json) : Bool :=
  (document.get? "found").bind Json.asBool? == some true

/-- The documents of an answer: the answer itself if it has a source, else its hits, else the listed
documents that were found; an answer of another form is none. -/
def documents? (answer : Json) : Option (List Json) :=
  if (answer.get? "_source").isSome then some [answer]
  else
    match answer.get? "hits" with
    | some hits => some (((hits.get? "hits").bind Json.asArray?).getD [])
    | none => ((answer.get? "docs").bind Json.asArray?).map fun docs => docs.filter isFound

/-- A way to make items of documents. -/
structure Mapper (ι : Type) where
  document : Json → Except Error ι

namespace Mapper

/-- The items of an answer. -/
def answer {ι : Type} (m : Mapper ι) (data : Json) : Except Error (List ι) :=
  match documents? data with
  | some documents => documents.mapM m.document
  | none => .error (.mapping (.unsupportedFormat data))

/-- The mapper with `f` applied to every item. -/
def map {ι κ : Type} (f : ι → κ) (m : Mapper ι) : Mapper κ where
  document document := (m.document document).map f

/-- The mapper that leaves the source of a document as it is. -/
def source : Mapper Json where
  document document :=
    match document.get? "_source" with
    | some source => .ok source
    | none =>
      .error (.mapping (.invalidDocument (identifierOf document) "document has no _source"))

end Mapper

/-- The number of documents that match a search, given as a number or as `value` of an object; zero
otherwise. -/
def hitCount (answer : Json) : UInt64 :=
  match answer.path? ["hits", "total"] with
  | some total =>
    (total.asNatural? <|> (total.get? "value").bind Json.asNatural?).getD 0
  | none => 0

end SearchStore
