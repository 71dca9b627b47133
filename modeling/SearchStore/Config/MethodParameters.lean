import SearchStore.Json.Decode

/-!
# Parameters by method

Engine parameters that are merged into every request of a method, as in
`{"index": {"refresh": "wait_for"}}`.
-/

namespace SearchStore

/-- The configured parameters of each method. -/
structure MethodParameters where
  methods : List (String × Fields) := []
deriving DecidableEq, Repr, Inhabited

namespace MethodParameters

/-- The parameters with those of one method replaced; a value that is no object changes nothing. -/
def set (p : MethodParameters) (method : String) : Json → MethodParameters
  | .object fields => ⟨Assoc.insert method fields p.methods⟩
  | _ => p

/-- The parameters of a method, an empty object if none are configured. -/
def layer (p : MethodParameters) (method : String) : Json :=
  .object ((Assoc.get? method p.methods).getD [])

/-- All parameters, by method. -/
def toJson (p : MethodParameters) : Json :=
  .object (Assoc.mapValues .object p.methods)

/-- Reads the parameters of each method. -/
def decode : Json.Decoder MethodParameters := fun value =>
  (Json.Decoder.map Json.Decoder.object value).map fun methods => ⟨methods⟩

/-- The field of a record for parameters by method. -/
def field : Json.Field MethodParameters :=
  { name := "parameters", decode, fallback := some {} }

end MethodParameters

end SearchStore
