import SearchStore.Json.Basic

/-!
# Merging parameter layers

A request is assembled from layers: configured parameters, a compiled query, the target. `merge`
lays one value over another: objects are merged key by key, arrays are concatenated, and in any other
case the upper value replaces the lower one. `layers` merges a sequence of values from left to right,
starting from an empty object.
-/

namespace SearchStore.Json

mutual
/-- Lays `source` over `target`. -/
def merge (target : Json) : (source : Json) → Json
  | .object fields =>
    match target with
    | .object entries => .object (mergeFields entries fields)
    | _ => .object fields
  | .array items =>
    match target with
    | .array lower => .array (lower ++ items)
    | _ => .array items
  | .null => .null
  | .bool b => .bool b
  | .number n => .number n
  | .string s => .string s

/-- Lays every entry of `source` over `target`: an existing key is merged in place, a new one goes
last. -/
def mergeFields (target : List (String × Json)) : (source : List (String × Json)) →
    List (String × Json)
  | [] => target
  | (key, value) :: rest =>
    mergeFields (Assoc.alter key value (fun lower => merge lower value) target) rest
end

/-- The layers laid over an empty object, first to last. -/
def layers (values : List Json) : Json :=
  values.foldl merge empty

end SearchStore.Json
